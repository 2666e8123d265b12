import TraceGraph.Proofs.TallyOrder
import Mathlib.Algebra.GroupWithZero.Nat
import Mathlib.Data.Finset.Card

/-! What counting adds up to. The count that is told after each increment is the sum of the amounts given for
its pair so far, and a tally holds each pair that was ever incremented once, with its sum. Its total, its size
and its largest count are those of the sums, so none of them depends on the order of the increments. Counts
that are kept in rows, one for each source, answer like one table of pairs. -/

namespace TraceGraph

variable {α : Type}

namespace Tally

/-- The pairs that are incremented. -/
def pairs (is : List (Increment α)) : List (α × α) := is.map fun i => (i.source, i.target)

variable [DecidableEq α]

/-- The sum of the amounts that are given for a pair. -/
def sumFor (s d : α) (is : List (Increment α)) : Int := weight (fun a b => a = s ∧ b = d) is

theorem count_run_empty (is : List (Increment α)) (s d : α) : (run is empty).count s d = sumFor s d is := by
  have hzero : (empty : Tally α).count s d = 0 := rfl
  rw [count_run, hzero, Int.zero_add, sumFor]

theorem mem_keys_run_empty (is : List (Increment α)) (p : α × α) :
    p ∈ (run is empty).counts.keys ↔ p ∈ pairs is := by
  have hnone : p ∉ (empty : Tally α).counts.keys := List.not_mem_nil
  rw [mem_keys_run, or_iff_right hnone, pairs, List.mem_map]

/-- A pair that was incremented is looked up as its sum. -/
theorem get?_run_empty (is : List (Increment α)) (s d : α) :
    (run is empty).counts.get? (s, d) = if (s, d) ∈ pairs is then some (sumFor s d is) else none := by
  rw [get?_eq, count_run_empty]
  exact if_congr (mem_keys_run_empty is (s, d)) rfl rfl

/-! ### What each increment tells -/

theorem runningCounts_append (is js : List (Increment α)) (t : Tally α) :
    runningCounts (is ++ js) t = runningCounts is t ++ runningCounts js (run is t) := by
  induction is generalizing t with
  | nil => rfl
  | cons i is ih => rw [List.cons_append, runningCounts, ih, runningCounts, run_cons, List.cons_append]

theorem length_runningCounts (is : List (Increment α)) (t : Tally α) :
    (runningCounts is t).length = is.length := by
  induction is generalizing t with
  | nil => rfl
  | cons i is ih => rw [runningCounts, List.length_cons, ih, List.length_cons]

/-- An increment tells the sum of what was given for its pair up to and with it. -/
theorem getElem?_runningCounts (before : List (Increment α)) (i : Increment α) (after : List (Increment α)) :
    (runningCounts (before ++ i :: after) empty)[before.length]? =
      some (sumFor i.source i.target (before ++ [i])) := by
  have hat : before.length = (runningCounts before (empty : Tally α)).length := (length_runningCounts _ _).symm
  rw [runningCounts_append, hat, List.getElem?_append_right le_rfl, Nat.sub_self, runningCounts,
    List.getElem?_cons_zero, ← count_run_empty, run_append, run_cons, run_nil]

/-! ### What is held at the end -/

theorem mem_items {t : Tally α} {s d : α} {n : Int} : (s, d, n) ∈ t.items ↔ t.counts.get? (s, d) = some n := by
  rw [Table.get?_eq_some_iff, items, List.mem_map]
  constructor
  · rintro ⟨e, he, hs⟩
    obtain ⟨rfl, rfl, rfl⟩ : e.1.1 = s ∧ e.1.2 = d ∧ e.2 = n := by simpa using hs
    exact he
  · exact fun h => ⟨_, h, rfl⟩

omit [DecidableEq α] in
theorem nodup_items (t : Tally α) : (t.items.map fun e => (e.1, e.2.1)).Nodup := by
  have hkeys : t.items.map (fun e => (e.1, e.2.1)) = t.counts.keys := by
    rw [items, List.map_map]
    rfl
  rw [hkeys]
  exact t.counts.nodup

theorem mem_items_run (is : List (Increment α)) (s d : α) (n : Int) :
    (s, d, n) ∈ (run is empty).items ↔ (s, d) ∈ pairs is ∧ n = sumFor s d is := by
  rw [mem_items, get?_run_empty]
  by_cases hp : (s, d) ∈ pairs is
  · rw [if_pos hp, Option.some.injEq, and_iff_right hp, eq_comm]
  · simp [hp]

theorem total_run_empty (is : List (Increment α)) :
    (run is empty).total = (is.map Increment.amount).sum := by
  have hall : is.filter (fun _ => true) = is := List.filter_eq_self.2 fun _ _ => rfl
  rw [total_eq_sumOver, sumOver_run, sumOver_empty, Int.zero_add, weight, hall]

theorem size_run_empty (is : List (Increment α)) : (run is empty).size = (pairs is).toFinset.card := by
  have hset : (run is empty).counts.keys.toFinset = (pairs is).toFinset := by
    ext p
    rw [List.mem_toFinset, List.mem_toFinset, mem_keys_run_empty]
  have hnodup : (run is empty).counts.keys.Nodup := (run is empty).counts.nodup
  rw [size, Table.size_eq_length_keys, ← hset, List.toFinset_card_of_nodup hnodup]

theorem mem_increments_run {is : List (Increment α)} {s d : α} (h : (s, d) ∈ pairs is) :
    ⟨s, d, sumFor s d is⟩ ∈ (run is empty).increments := by
  rw [mem_increments, get?_run_empty, if_pos h]

theorem sumFor_le_max {is : List (Increment α)} {s d : α} (h : (s, d) ∈ pairs is) :
    sumFor s d is ≤ (run is empty).max :=
  amount_le_max (mem_increments_run h)

theorem exists_sumFor_eq_max {is : List (Increment α)} (h : is ≠ []) :
    ∃ s d, (s, d) ∈ pairs is ∧ sumFor s d is = (run is empty).max := by
  rcases (run is empty).exists_amount_eq_max with ⟨i, hi, hmax⟩ | ⟨hnone, -⟩
  · have hget := mem_increments.1 hi
    have hpair := (mem_keys_run_empty is _).1 (Table.mem_keys_of_get? hget)
    refine ⟨i.source, i.target, hpair, ?_⟩
    rw [← count_run_empty, count, hget, Option.getD_some, hmax]
  · obtain ⟨i, is, rfl⟩ := List.exists_cons_of_ne_nil h
    have hpair : (i.source, i.target) ∈ pairs (i :: is) := List.mem_cons_self
    exact absurd (mem_increments_run hpair) (hnone ▸ List.not_mem_nil)

end Tally

/-! ### Counts in rows -/

open Tally

/-- Counts in rows: for each source that was ever counted, the counts of its targets. -/
structure Rows (α : Type) where
  rows : Table α (Table α Int)

namespace Rows

def empty : Rows α := ⟨Table.empty⟩

def items (r : Rows α) : List (α × α × Int) :=
  r.rows.entries.flatMap fun e => e.2.entries.map fun c => (e.1, c.1, c.2)

def total (r : Rows α) : Int := (r.items.map (·.2.2)).foldr (· + ·) 0

def max (r : Rows α) : Int := largest (r.items.map (·.2.2))

def size (r : Rows α) : Nat := (r.rows.values.map Table.size).sum

variable [DecidableEq α]

/-- The row of a source, an empty one if there is none yet. -/
def row (r : Rows α) (source : α) : Table α Int := (r.rows.get? source).getD Table.empty

def count (r : Rows α) (source target : α) : Int := ((r.row source).get? target).getD 0

def add (r : Rows α) (source target : α) (amount : Int) : Rows α :=
  ⟨r.rows.set source ((r.row source).set target (r.count source target + amount))⟩

def run (is : List (Increment α)) (r : Rows α) : Rows α :=
  is.foldl (fun r i => r.add i.source i.target i.amount) r

/-- The count of each increment's pair right after it was counted. -/
def runningCounts : List (Increment α) → Rows α → List Int
  | [], _ => []
  | i :: is, r =>
    let r' := r.add i.source i.target i.amount
    r'.count i.source i.target :: runningCounts is r'

/-- The rows and the tally have the same counts for the same pairs. -/
def Matches (r : Rows α) (t : Tally α) : Prop := ∀ s d, (r.row s).get? d = t.counts.get? (s, d)

theorem row_add (r : Rows α) (s d : α) (n : Int) (s' : α) :
    (r.add s d n).row s' = if s' = s then (r.row s).set d (r.count s d + n) else r.row s' := by
  rw [row, add, Table.get?_set]
  split <;> rfl

theorem mem_items {r : Rows α} {s d : α} {n : Int} : (s, d, n) ∈ r.items ↔ (r.row s).get? d = some n := by
  rw [items, List.mem_flatMap, row]
  constructor
  · rintro ⟨⟨s', row⟩, hrow, hmem⟩
    obtain ⟨c, hc, hends⟩ := List.mem_map.1 hmem
    obtain ⟨rfl, rfl⟩ : s' = s ∧ c = (d, n) := by simpa using hends
    rw [(r.rows.get?_eq_some_iff s' row).2 hrow, Option.getD_some]
    exact Table.get?_of_mem hc
  · intro h
    cases hrow : r.rows.get? s with
    | none =>
      rw [hrow] at h
      cases h
    | some row =>
      rw [hrow, Option.getD_some] at h
      exact ⟨(s, row), (r.rows.get?_eq_some_iff s row).1 hrow,
        List.mem_map.2 ⟨(d, n), (row.get?_eq_some_iff d n).1 h, rfl⟩⟩

omit [DecidableEq α] in
theorem length_items (r : Rows α) : r.items.length = r.size := by
  simp only [items, size, Table.values, Table.size, List.length_flatMap, List.length_map, List.map_map,
    Function.comp_def]

omit [DecidableEq α] in
theorem nodup_items (r : Rows α) : r.items.Nodup := by
  refine List.nodup_flatMap.2 ⟨fun e _ => ?_, ?_⟩
  · exact e.2.nodup_entries.map fun c c' h => by simpa [Prod.ext_iff] using h
  · -- items of two rows differ in their sources
    refine (List.pairwise_map.1 r.rows.nodup).imp fun {e e'} hne => ?_
    intro i hi hi'
    obtain ⟨c, -, rfl⟩ := List.mem_map.1 hi
    obtain ⟨c', -, hc'⟩ := List.mem_map.1 hi'
    exact hne (congrArg Prod.fst hc').symm

namespace Matches

variable {r : Rows α} {t : Tally α}

theorem count_eq (h : r.Matches t) (s d : α) : r.count s d = t.count s d := by
  rw [count, h s d, Tally.count]

theorem add (h : r.Matches t) (s d : α) (n : Int) : (r.add s d n).Matches (t.add s d n) := by
  intro s' d'
  rw [row_add, Tally.add, Table.get?_set, h.count_eq]
  by_cases hs : s' = s
  · subst hs
    rw [if_pos rfl, Table.get?_set, h]
    simp only [Prod.mk.injEq, true_and]
  · rw [if_neg hs, h, if_neg fun hp => hs (Prod.mk.inj hp).1]

theorem run (h : r.Matches t) (is : List (Increment α)) : (Rows.run is r).Matches (Tally.run is t) := by
  induction is generalizing r t with
  | nil => exact h
  | cons i is ih => exact ih (h.add i.source i.target i.amount)

theorem runningCounts_eq (h : r.Matches t) (is : List (Increment α)) :
    Rows.runningCounts is r = Tally.runningCounts is t := by
  induction is generalizing r t with
  | nil => rfl
  | cons i is ih =>
    have hadd := h.add i.source i.target i.amount
    rw [Rows.runningCounts, Tally.runningCounts, hadd.count_eq, ih hadd]

theorem items_perm (h : r.Matches t) : r.items.Perm t.items := by
  rw [List.perm_ext_iff_of_nodup r.nodup_items (t.nodup_items.of_map _)]
  rintro ⟨s, d, n⟩
  rw [Rows.mem_items, h s d, Tally.mem_items]

theorem values_perm (h : r.Matches t) : (r.items.map (·.2.2)).Perm t.counts.values := by
  have hvalues : t.items.map (·.2.2) = t.counts.values := by
    rw [Tally.items, List.map_map]
    rfl
  rw [← hvalues]
  exact h.items_perm.map _

theorem total_eq (h : r.Matches t) : r.total = t.total := h.values_perm.sum_eq

theorem max_eq (h : r.Matches t) : r.max = t.max := largest_perm h.values_perm

theorem size_eq (h : r.Matches t) : r.size = t.size := by
  rw [← length_items, h.items_perm.length_eq, Tally.items, List.length_map]
  rfl

end Matches

theorem matches_empty : (empty : Rows α).Matches Tally.empty := fun _ _ => rfl

end Rows

namespace Tally

theorem items_perm {t u : Tally α} (h : t.counts.entries.Perm u.counts.entries) : t.items.Perm u.items := h.map _

variable [DecidableEq α]

/-- Counting increments of any amounts, zero and negative ones too: each increment tells the sum of what was
given for its pair so far. At the end each pair that was incremented is held once, with its sum, the total is
that of all amounts, the size is the number of pairs and the largest count is the largest sum, 0 if there is
none. Another order of the increments changes none of these, nor does counting in rows. -/
theorem run_counts_increments (is : List (Increment α)) :
    let t := run is empty
    let r := Rows.run is Rows.empty
    ((runningCounts is empty).length = is.length ∧ ∀ before i after, is = before ++ i :: after →
      (runningCounts is empty)[before.length]? = some (sumFor i.source i.target (before ++ [i]))) ∧
    ((t.items.map fun e => (e.1, e.2.1)).Nodup ∧
      ∀ s d n, (s, d, n) ∈ t.items ↔ (s, d) ∈ pairs is ∧ n = sumFor s d is) ∧
    (t.total = (is.map Increment.amount).sum ∧ t.size = (pairs is).toFinset.card) ∧
    ((is = [] → t.max = 0) ∧ (is ≠ [] → (∃ s d, (s, d) ∈ pairs is ∧ sumFor s d is = t.max) ∧
      ∀ s d, (s, d) ∈ pairs is → sumFor s d is ≤ t.max)) ∧
    (∀ js, js.Perm is →
      let u := run js empty
      u.items.Perm t.items ∧ u.total = t.total ∧ u.size = t.size ∧ u.max = t.max) ∧
    Rows.runningCounts is Rows.empty = runningCounts is empty ∧
    (r.items.Perm t.items ∧ r.total = t.total ∧ r.size = t.size ∧ r.max = t.max) := by
  intro t r
  refine ⟨⟨length_runningCounts is empty, ?_⟩, ⟨t.nodup_items, mem_items_run is⟩,
    ⟨total_run_empty is, size_run_empty is⟩, ⟨?_, fun his => ⟨exists_sumFor_eq_max his, fun _ _ => sumFor_le_max⟩⟩,
    fun js hperm => ?_,
    Rows.matches_empty.runningCounts_eq is, ?_⟩
  · rintro before i after rfl
    exact getElem?_runningCounts before i after
  · rintro rfl
    rfl
  · have hentries := entries_run_perm hperm empty
    exact ⟨items_perm hentries, total_eq_of_perm hentries, size_eq_of_perm hentries, max_eq_of_perm hentries⟩
  · have hrows := Rows.matches_empty.run is
    exact ⟨hrows.items_perm, hrows.total_eq, hrows.size_eq, hrows.max_eq⟩

end Tally

end TraceGraph
