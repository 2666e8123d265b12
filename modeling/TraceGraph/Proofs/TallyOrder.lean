import TraceGraph.Proofs.Tally
import Mathlib.Data.List.Nodup

/-! Tallies do not depend on the order of counting. Look-up tells a table but for the order of its
entries, and what is looked up in a tally is a sum, so increments in another order give the same counts,
the same total and the same largest count. Names that are told apart may be changed before counting or
after it. -/

namespace TraceGraph

variable {κ ν α β : Type}

namespace Table

theorem nodup_entries (t : Table κ ν) : t.entries.Nodup := t.nodup.of_map _

variable [DecidableEq κ]

/-- Tables in which the same is looked up have the same entries. -/
theorem entries_perm {t u : Table κ ν} (h : ∀ k, t.get? k = u.get? k) : t.entries.Perm u.entries := by
  rw [List.perm_ext_iff_of_nodup t.nodup_entries u.nodup_entries]
  rintro ⟨k, v⟩
  rw [← get?_eq_some_iff, ← get?_eq_some_iff, h k]

/-- Setting a value under a changed name changes the name in the table. -/
theorem put_map {μ : Type} [DecidableEq μ] {f : κ → μ} (hf : Function.Injective f) (k : κ) (v : ν)
    (es : List (κ × ν)) :
    put (f k) v (es.map fun e => (f e.1, e.2)) = (put k v es).map fun e => (f e.1, e.2) := by
  induction es with
  | nil => rfl
  | cons e es ih =>
    rw [List.map_cons, put, put]
    by_cases he : e.1 = k
    · rw [if_pos (congrArg f he), if_pos he, List.map_cons]
    · rw [if_neg fun h => he (hf h), if_neg he, List.map_cons, ih]

end Table

namespace Tally

theorem weight_perm {is js : List (Increment α)} (h : is.Perm js) (P : α → α → Bool) :
    weight P is = weight P js :=
  ((h.filter _).map _).sum_eq

/-- The largest count of a tally of positive counts is bounded by whatever bounds them all. -/
theorem Positive.max_le_iff [DecidableEq α] {t : Tally α} (h : t.Positive) (n : Int) :
    t.max ≤ n ↔ 0 ≤ n ∧ ∀ s d, t.count s d ≤ n := by
  constructor
  · intro hn
    have hzero : 0 ≤ t.max := by
      rcases t.exists_amount_eq_max with ⟨i, hi, hmax⟩ | ⟨-, hmax⟩
      · have hpos := h.amount_pos hi
        omega
      · omega
    refine ⟨by omega, fun s d => ?_⟩
    rw [count]
    cases hc : t.counts.get? (s, d) with
    | none =>
      rw [Option.getD_none]
      omega
    | some k =>
      have hk : k ≤ t.max := amount_le_max (i := ⟨s, d, k⟩) (mem_increments.2 hc)
      rw [Option.getD_some]
      omega
  · rintro ⟨hzero, hall⟩
    rcases t.exists_amount_eq_max with ⟨i, hi, hmax⟩ | ⟨-, hmax⟩
    · have hi' := hall i.source i.target
      rw [count, mem_increments.1 hi, Option.getD_some] at hi'
      omega
    · omega

/-! ### Another order -/

section Order
variable [DecidableEq α]

theorem mem_keys_run (p : α × α) (is : List (Increment α)) (t : Tally α) :
    p ∈ (run is t).counts.keys ↔ p ∈ t.counts.keys ∨ ∃ i ∈ is, (i.source, i.target) = p := by
  induction is generalizing t with
  | nil => simp
  | cons i is ih =>
    have hadd : p ∈ (t.add i.source i.target i.amount).counts.keys ↔
        p ∈ t.counts.keys ∨ (i.source, i.target) = p := by
      rw [add, Table.keys_set]
      split
      · next hmem =>
        constructor
        · exact .inl
        · rintro (hp | rfl)
          · exact hp
          · exact hmem
      · rw [List.mem_append, List.mem_singleton, eq_comm (a := p)]
    rw [run_cons, ih, hadd, List.exists_mem_cons_iff, or_assoc]

/-- A pair that was counted is looked up as its sum. -/
theorem get?_eq (t : Tally α) (p : α × α) :
    t.counts.get? p = if p ∈ t.counts.keys then some (t.count p.1 p.2) else none := by
  rw [count]
  cases h : t.counts.get? p with
  | none => rw [if_neg ((Table.get?_eq_none_iff _ _).1 h)]
  | some n => rw [if_pos (Table.mem_keys_of_get? h), Option.getD_some]

theorem count_run (is : List (Increment α)) (t : Tally α) (s d : α) :
    (run is t).count s d = t.count s d + weight (fun a b => a = s ∧ b = d) is := by
  rw [count_eq_sumOver, sumOver_run, count_eq_sumOver]

/-- Increments in another order give the same counts. -/
theorem entries_run_perm {is js : List (Increment α)} (h : is.Perm js) (t : Tally α) :
    (run is t).counts.entries.Perm (run js t).counts.entries := by
  apply Table.entries_perm
  intro p
  have hkeys : p ∈ (run is t).counts.keys ↔ p ∈ (run js t).counts.keys := by
    rw [mem_keys_run, mem_keys_run]
    simp only [h.mem_iff]
  rw [get?_eq, get?_eq, count_run, count_run, weight_perm h]
  simp only [hkeys]

end Order

theorem largest_perm {ns ms : List Int} (h : ns.Perm ms) : largest ns = largest ms := by
  rw [largest_eq, largest_eq]
  congr 1
  cases hn : ns.max? with
  | none =>
    rw [List.max?_eq_none_iff] at hn
    rw [hn, List.nil_perm] at h
    rw [h, List.max?_nil]
  | some n =>
    rw [List.max?_eq_some_iff] at hn
    rw [eq_comm, List.max?_eq_some_iff]
    exact ⟨h.mem_iff.1 hn.1, fun k hk => hn.2 k (h.mem_iff.2 hk)⟩

section Entries
variable {t u : Tally α} (h : t.counts.entries.Perm u.counts.entries)
include h

theorem increments_perm : t.increments.Perm u.increments := (h.map _).map _

theorem max_eq_of_perm : t.max = u.max := largest_perm (h.map _)

theorem total_eq_of_perm : t.total = u.total := by
  have hvalues : t.counts.values.Perm u.counts.values := h.map _
  exact hvalues.sum_eq

theorem size_eq_of_perm : t.size = u.size := h.length_eq

end Entries

/-! ### Other names -/

/-- The second tally has the counts of the first under other names. -/
def Renamed (f : α → β) (t : Tally α) (u : Tally β) : Prop :=
  u.counts.entries = t.counts.entries.map fun e => ((f e.1.1, f e.1.2), e.2)

namespace Renamed

variable {f : α → β} {t : Tally α} {u : Tally β}

theorem increments (h : Renamed f t u) : u.increments = t.increments.map (Increment.map f) := by
  rw [Tally.increments, Tally.increments, items, items, h]
  simp only [List.map_map]
  rfl

variable [DecidableEq α] [DecidableEq β] (hf : Function.Injective f)
include hf

theorem count (h : Renamed f t u) (s d : α) : u.count (f s) (f d) = t.count s d := by
  have htest : ((fun e : (β × β) × Int => decide (e.1 = (f s, f d))) ∘
      fun e : (α × α) × Int => ((f e.1.1, f e.1.2), e.2)) = fun e => decide (e.1 = (s, d)) := by
    funext e
    exact decide_eq_decide.2 ((hf.prodMap hf).eq_iff (a := e.1) (b := (s, d)))
  rw [Tally.count, Tally.count, Table.get?, Table.get?, h, List.find?_map, htest, Option.map_map]
  rfl

theorem add (h : Renamed f t u) (s d : α) (n : Int) :
    Renamed f (t.add s d n) (u.add (f s) (f d) n) := by
  have hput := Table.put_map (hf.prodMap hf) (s, d) (t.count s d + n) t.counts.entries
  change Table.put (f s, f d) (u.count (f s) (f d) + n) u.counts.entries = _
  rw [h.count hf, h]
  exact hput

theorem run (h : Renamed f t u) (is : List (Increment α)) :
    Renamed f (Tally.run is t) (Tally.run (is.map (Increment.map f)) u) := by
  induction is generalizing t u with
  | nil => exact h
  | cons i is ih => exact ih (h.add hf i.source i.target i.amount)

end Renamed

section Fold
variable [DecidableEq β] {γ : Type} [DecidableEq γ] {is js : List (Increment α)}
  (h : is.Perm js) (f : α → β) {g : β → γ} (hg : Function.Injective g)
include h hg

/-- What is folded onto other names, in another order, is renamed. -/
theorem increments_fold_perm :
    (run (js.map (Increment.map (g ∘ f))) empty).increments.Perm
      ((run (is.map (Increment.map f)) empty).increments.map (Increment.map g)) := by
  have hmap : js.map (Increment.map (g ∘ f)) = (js.map (Increment.map f)).map (Increment.map g) := by
    rw [List.map_map]
    rfl
  have hempty : Renamed g (empty : Tally β) (empty : Tally γ) := rfl
  rw [hmap, (hempty.run hg _).increments]
  exact (increments_perm (entries_run_perm (h.symm.map _) empty)).map _

theorem max_fold_eq :
    (run (js.map (Increment.map (g ∘ f))) empty).max = (run (is.map (Increment.map f)) empty).max := by
  have hamounts := (increments_fold_perm h f hg).map Increment.amount
  rw [List.map_map, map_amount_increments] at hamounts
  rw [max, max, largest_perm hamounts, ← map_amount_increments]
  rfl

end Fold

end Tally

end TraceGraph
