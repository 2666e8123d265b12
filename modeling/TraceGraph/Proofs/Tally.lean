import TraceGraph.Tally
import TraceGraph.Proofs.Table
import Mathlib.Algebra.Order.Group.Int
import Mathlib.Algebra.Ring.Int.Defs
import Mathlib.Algebra.BigOperators.Group.List.Basic

/-! What a tally adds up to over a set of pairs. Counting an amount for a pair raises the sum over every
set with the pair in it by that amount and leaves the other sums alone. So the sums of a tally, its single
counts among them, are those of the increments that it was run on, in whatever order and however they
were gathered before. -/

namespace TraceGraph.Tally

variable {α β : Type}

/-- The sum of the amounts that are counted for pairs of a set. -/
def weight (P : α → α → Bool) (is : List (Increment α)) : Int :=
  ((is.filter fun i => P i.source i.target).map Increment.amount).sum

theorem weight_cons (P : α → α → Bool) (i : Increment α) (is : List (Increment α)) :
    weight P (i :: is) = (if P i.source i.target then i.amount else 0) + weight P is := by
  unfold weight
  by_cases h : P i.source i.target = true <;> simp [h]

/-- The contents of a tally as increments. -/
def increments (t : Tally α) : List (Increment α) :=
  t.items.map fun i => ⟨i.1, i.2.1, i.2.2⟩

/-- The sum of the counts of the pairs of a set. -/
def sumOver (P : α → α → Bool) (t : Tally α) : Int := weight P t.increments

theorem sumOver_eq (P : α → α → Bool) (t : Tally α) :
    t.sumOver P = ((t.counts.entries.filter fun e => P e.1.1 e.1.2).map Prod.snd).sum := by
  simp only [sumOver, weight, increments, items, List.map_map, List.filter_map]
  rfl

@[simp] theorem sumOver_empty (P : α → α → Bool) : (empty : Tally α).sumOver P = 0 := rfl

/-- An increment with its ends renamed. -/
def Increment.map (f : α → β) (i : Increment α) : Increment β := ⟨f i.source, f i.target, i.amount⟩

theorem weight_map (P : β → β → Bool) (f : α → β) (is : List (Increment α)) :
    weight P (is.map (Increment.map f)) = weight (fun a b => P (f a) (f b)) is := by
  simp only [weight, List.filter_map, List.map_map]
  rfl

/-- An increment by one for each pair. -/
def ones (es : List (α × α)) : List (Increment α) := es.map fun e => ⟨e.1, e.2, 1⟩

theorem weight_ones (P : α → α → Bool) (es : List (α × α)) :
    weight P (ones es) = es.countP fun e => P e.1 e.2 := by
  induction es with
  | nil => rfl
  | cons e es ih =>
    rw [ones, List.map_cons, ← ones, weight_cons, ih, List.countP_cons]
    by_cases h : P e.1 e.2 = true
    · simp only [h, if_true]
      push_cast
      omega
    · simp [h]

variable [DecidableEq α]

theorem sum_put (P : α × α → Bool) (k : α × α) (n : Int) (es : List ((α × α) × Int)) :
    (((Table.put k n es).filter fun e => P e.1).map Prod.snd).sum =
      ((es.filter fun e => P e.1).map Prod.snd).sum +
        if P k then n - ((es.find? (·.1 = k)).map Prod.snd).getD 0 else 0 := by
  induction es with
  | nil => by_cases h : P k = true <;> simp [Table.put, h]
  | cons e es ih =>
    rw [Table.put]
    by_cases he : e.1 = k
    · by_cases h : P k = true
      · simp only [he, if_true, List.filter_cons, h, List.map_cons, List.sum_cons, List.find?_cons,
          decide_true, Option.map_some, Option.getD_some]
        omega
      · simp [he, h]
    · rw [if_neg he, List.filter_cons, List.filter_cons, List.find?_cons]
      simp only [he, decide_false]
      by_cases h : P e.1 = true
      · simp only [h, if_true, List.map_cons, List.sum_cons, ih]
        omega
      · simp only [h, Bool.false_eq_true, if_false, ih]

theorem sumOver_add (P : α → α → Bool) (t : Tally α) (s d : α) (n : Int) :
    (t.add s d n).sumOver P = t.sumOver P + if P s d then n else 0 := by
  rw [sumOver_eq, sumOver_eq, add, Table.set, sum_put (fun e => P e.1 e.2)]
  have hcount : ((t.counts.entries.find? (·.1 = (s, d))).map Prod.snd).getD 0 = t.count s d := rfl
  rw [hcount]
  by_cases h : P s d = true
  · rw [if_pos h, if_pos h]
    omega
  · rw [if_neg h, if_neg h]

/-- The sums of a tally are those of the increments that it was run on. -/
theorem sumOver_run (P : α → α → Bool) (is : List (Increment α)) (t : Tally α) :
    (run is t).sumOver P = t.sumOver P + weight P is := by
  induction is generalizing t with
  | nil => simp [weight]
  | cons i is ih =>
    rw [run_cons, ih, sumOver_add, weight_cons]
    omega

omit [DecidableEq α] in
theorem total_eq_sumOver (t : Tally α) : t.total = t.sumOver fun _ _ => true := by
  have hall : t.counts.entries.filter (fun _ => true) = t.counts.entries := List.filter_eq_self.2 fun _ _ => rfl
  rw [sumOver_eq, hall]
  rfl

/-- One increment by one for each pair makes a total of as many. -/
theorem total_run_ones (es : List (α × α)) : (run (ones es) empty).total = es.length := by
  rw [total_eq_sumOver, sumOver_run, sumOver_empty, weight_ones, Int.zero_add, List.countP_true]

/-! ### Single counts -/

theorem mem_increments {t : Tally α} {i : Increment α} :
    i ∈ t.increments ↔ t.counts.get? (i.source, i.target) = some i.amount := by
  rw [Table.get?_eq_some_iff, increments, items, List.map_map, List.mem_map]
  constructor
  · rintro ⟨e, he, rfl⟩
    exact he
  · intro h
    exact ⟨_, h, rfl⟩

omit [DecidableEq α] in
theorem nodup_increments (t : Tally α) :
    (t.increments.map fun i => (i.source, i.target)).Nodup := by
  have h := t.counts.nodup
  simpa [increments, items, List.map_map, Function.comp_def] using h

omit [DecidableEq α] in
theorem map_amount_increments (t : Tally α) : t.increments.map Increment.amount = t.counts.values := by
  rw [increments, items, List.map_map, List.map_map]
  rfl

theorem largest_eq (ns : List Int) : largest ns = ns.max?.getD 0 := by cases ns <;> rfl

omit [DecidableEq α] in
theorem max_eq (t : Tally α) : t.max = (t.increments.map Increment.amount).max?.getD 0 := by
  rw [max, largest_eq, map_amount_increments]

omit [DecidableEq α] in
theorem amount_le_max {t : Tally α} {i : Increment α} (hi : i ∈ t.increments) : i.amount ≤ t.max := by
  obtain ⟨n, hn⟩ : ∃ n, (t.increments.map Increment.amount).max? = some n :=
    Option.isSome_iff_exists.1 (List.isSome_max?_of_mem (List.mem_map_of_mem hi))
  rw [max_eq, hn, Option.getD_some]
  exact (List.max?_eq_some_iff.1 hn).2 _ (List.mem_map_of_mem hi)

omit [DecidableEq α] in
/-- The largest count is that of a pair, unless nothing was counted. -/
theorem exists_amount_eq_max (t : Tally α) :
    (∃ i ∈ t.increments, i.amount = t.max) ∨ (t.increments = [] ∧ t.max = 0) := by
  rw [max_eq]
  cases hn : (t.increments.map Increment.amount).max? with
  | none =>
    rw [List.max?_eq_none_iff, List.map_eq_nil_iff] at hn
    exact .inr ⟨hn, rfl⟩
  | some n => exact .inl (List.mem_map.1 (List.max?_eq_some_iff.1 hn).1)

/-- A pair has one increment if it was ever counted, with its count as the amount. -/
theorem filter_increments (t : Tally α) (s d : α) :
    t.increments.filter (fun i => i.source = s ∧ i.target = d) =
      ((t.counts.get? (s, d)).map fun n => ⟨s, d, n⟩).toList := by
  have hsub : ∀ (is : List (Increment α)), (is.map fun i => (i.source, i.target)).Nodup →
      ∀ i ∈ is, i.source = s ∧ i.target = d →
        is.filter (fun i => i.source = s ∧ i.target = d) = [i] := by
    intro is hnodup i hi hends
    induction is with
    | nil => cases hi
    | cons j is ih =>
      rw [List.map_cons, List.nodup_cons] at hnodup
      by_cases hj : j.source = s ∧ j.target = d
      · have hrest : ∀ k ∈ is, ¬ (k.source = s ∧ k.target = d) := by
          rintro k hk ⟨rfl, rfl⟩
          exact hnodup.1 (List.mem_map.2 ⟨k, hk, by rw [hj.1, hj.2]⟩)
        rcases List.mem_cons.1 hi with rfl | hmem
        · rw [List.filter_cons_of_pos (by simpa using hj), List.filter_eq_nil_iff.2]
          intro k hk
          simpa using hrest k hk
        · exact absurd hends (hrest i hmem)
      · rcases List.mem_cons.1 hi with rfl | hmem
        · exact absurd hends hj
        · rw [List.filter_cons_of_neg (by simpa using hj)]
          exact ih hnodup.2 hmem
  cases h : t.counts.get? (s, d) with
  | some n => exact hsub _ t.nodup_increments ⟨s, d, n⟩ (mem_increments.2 h) ⟨rfl, rfl⟩
  | none =>
    rw [Option.map_none, Option.toList_none, List.filter_eq_nil_iff]
    rintro i hi
    rw [decide_eq_true_iff]
    rintro ⟨rfl, rfl⟩
    rw [mem_increments.1 hi] at h
    cases h

theorem count_eq_sumOver (t : Tally α) (s d : α) :
    t.count s d = t.sumOver fun a b => a = s ∧ b = d := by
  rw [sumOver, weight, filter_increments, count]
  cases t.counts.get? (s, d) <;> simp

/-- A property of all pairs that are counted holds of the pairs of a tally. -/
theorem forall_increments_run {Q : α → α → Prop} {is : List (Increment α)} {t : Tally α}
    (ht : ∀ i ∈ t.increments, Q i.source i.target) (his : ∀ i ∈ is, Q i.source i.target) :
    ∀ i ∈ (run is t).increments, Q i.source i.target := by
  induction is generalizing t with
  | nil => exact ht
  | cons j is ih =>
    rw [run_cons]
    refine ih (fun i hi => ?_) fun k hk => his k (by simp [hk])
    rw [mem_increments, add, Table.get?_set] at hi
    split at hi
    · next hends =>
      obtain ⟨hs, hd⟩ := Prod.mk.inj hends
      rw [hs, hd]
      exact his j (by simp)
    · exact ht i (mem_increments.2 hi)

/-- Whether each count of a tally is positive. -/
def Positive (t : Tally α) : Prop := ∀ s d n, t.counts.get? (s, d) = some n → 0 < n

theorem positive_empty : (empty : Tally α).Positive := by
  intro s d n h
  cases h

theorem Positive.add {t : Tally α} (h : t.Positive) (s d : α) {n : Int} (hn : 0 < n) :
    (t.add s d n).Positive := by
  intro s' d' n' h'
  rw [Tally.add, Table.get?_set] at h'
  split at h'
  · obtain rfl := Option.some.inj h'
    unfold count
    cases hc : t.counts.get? (s, d) with
    | none => simpa using hn
    | some k =>
      have hk := h s d k hc
      rw [Option.getD_some]
      omega
  · exact h s' d' n' h'

theorem Positive.amount_pos {t : Tally α} (h : t.Positive) {i : Increment α} (hi : i ∈ t.increments) :
    0 < i.amount :=
  h i.source i.target i.amount (mem_increments.1 hi)

theorem Positive.run {t : Tally α} (h : t.Positive) {is : List (Increment α)}
    (his : ∀ i ∈ is, 0 < i.amount) : (Tally.run is t).Positive := by
  induction is generalizing t with
  | nil => exact h
  | cons i is ih =>
    rw [run_cons]
    exact ih (h.add i.source i.target (his i (by simp))) fun j hj => his j (by simp [hj])

/-- In a tally of positive counts, a pair has an increment exactly if its count is not 0. -/
theorem Positive.filter_increments {t : Tally α} (h : t.Positive) (s d : α) :
    t.increments.filter (fun i => i.source = s ∧ i.target = d) =
      if t.count s d = 0 then [] else [⟨s, d, t.count s d⟩] := by
  rw [Tally.filter_increments, count]
  cases hc : t.counts.get? (s, d) with
  | none => simp
  | some n =>
    have hn := h s d n hc
    rw [Option.getD_some, if_neg (by omega), Option.map_some, Option.toList_some]

end TraceGraph.Tally
