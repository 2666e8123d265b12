import TraceGraph.Table

/-! Running counts of ordered pairs, such as messages from a source to a target. -/

namespace TraceGraph

/-- How much has been counted for each pair of a source and a target so far. -/
structure Tally (α : Type) where
  counts : Table (α × α) Int

namespace Tally

variable {α : Type}

def empty : Tally α := ⟨Table.empty⟩

instance : Inhabited (Tally α) := ⟨empty⟩

def items (t : Tally α) : List (α × α × Int) := t.counts.entries.map fun e => (e.1.1, e.1.2, e.2)

def total (t : Tally α) : Int := t.counts.values.foldr (· + ·) 0

/-- The largest element, or 0 if there is none. -/
def largest : List Int → Int
  | [] => 0
  | n :: ns => ns.foldl max n

def max (t : Tally α) : Int := largest t.counts.values

def size (t : Tally α) : Nat := t.counts.size

variable [DecidableEq α]

/-- The count of a pair, 0 if nothing was ever counted for it. -/
def count (t : Tally α) (source target : α) : Int := (t.counts.get? (source, target)).getD 0

def add (t : Tally α) (source target : α) (amount : Int) : Tally α :=
  ⟨t.counts.set (source, target) (t.count source target + amount)⟩

theorem count_add (t : Tally α) (s d : α) (n : Int) (s' d' : α) :
    (t.add s d n).count s' d' = if s' = s ∧ d' = d then t.count s d + n else t.count s' d' := by
  simp only [count, add, Table.get?_set, Prod.mk.injEq]
  split <;> simp

/-- One amount counted for a pair. -/
structure Increment (α : Type) where
  source : α
  target : α
  amount : Int

def run (is : List (Increment α)) (t : Tally α) : Tally α :=
  is.foldl (fun t i => t.add i.source i.target i.amount) t

@[simp] theorem run_nil (t : Tally α) : run [] t = t := rfl

@[simp] theorem run_cons (i : Increment α) (is : List (Increment α)) (t : Tally α) :
    run (i :: is) t = run is (t.add i.source i.target i.amount) := rfl

theorem run_append (is js : List (Increment α)) (t : Tally α) :
    run (is ++ js) t = run js (run is t) := List.foldl_append

/-- The count of each increment's pair right after it was counted. -/
def runningCounts : List (Increment α) → Tally α → List Int
  | [], _ => []
  | i :: is, t =>
    let t' := t.add i.source i.target i.amount
    t'.count i.source i.target :: runningCounts is t'

end Tally

end TraceGraph
