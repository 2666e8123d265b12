import TraceGraph.Group

/-! Runs of a table of groups: members come, groups are looked up and promoted, and their nodes are moved. A
promotion that is refused changes nothing; a move keeps the coordinate assigned before the one that was
refused. -/

namespace TraceGraph.GroupTable

variable {α : Type}

inductive Op (α : Type)
  | add (key : String) (a : α)
  | get (key : String)
  | promote (key : String) (groups : Int)
  | promoteAll
  /-- Assign one coordinate of the node of a group. -/
  | assign (key : String) (axis : Axis) (given : Json)
  /-- Assign both coordinates of the node of a group, x before y. -/
  | move (key : String) (x y : Json)

/-- The table after an operation, and why the operation broke off, if it did. -/
structure Reply (α : Type) where
  table : GroupTable α
  answer : Except Fault Unit

/-- Assign a coordinate of the node of a group that exists. -/
def assign (t : GroupTable α) (key : String) (axis : Axis) (given : Json) :
    Except Fault (GroupTable α) := do
  let _ ← t.get key
  let c ← Fault.comparable given
  return t.modify key (·.set axis c)

def move (t : GroupTable α) (key : String) (x y : Json) : Reply α :=
  match t.assign key .x x with
  | .error e => ⟨t, .error e⟩
  | .ok t =>
    match t.assign key .y y with
    | .error e => ⟨t, .error e⟩
    | .ok t => ⟨t, .ok ()⟩

def promoted (t : GroupTable α) : Except Fault (GroupTable α × List Log.Record) → Reply α
  | .ok (t, _) => ⟨t, .ok ()⟩
  | .error e => ⟨t, .error e⟩

def Op.run (t : GroupTable α) : Op α → Reply α
  | .add key a => ⟨t.add key a, .ok ()⟩
  | .get key => ⟨t, (t.get key).map fun _ => ()⟩
  | .promote key groups => t.promoted (t.promote key groups)
  | .promoteAll => t.promoted t.promoteAll
  | .assign key axis given =>
    match t.assign key axis given with
    | .error e => ⟨t, .error e⟩
    | .ok t => ⟨t, .ok ()⟩
  | .move key x y => t.move key x y

/-- The table after a list of operations. -/
def run (ops : List (Op α)) (t : GroupTable α) : GroupTable α :=
  ops.foldl (fun t op => (op.run t).table) t

@[simp] theorem run_nil (t : GroupTable α) : run [] t = t := rfl

@[simp] theorem run_cons (op : Op α) (ops : List (Op α)) (t : GroupTable α) :
    run (op :: ops) t = run ops (op.run t).table := rfl

theorem run_append (ops more : List (Op α)) (t : GroupTable α) :
    run (ops ++ more) t = run more (run ops t) := List.foldl_append

end TraceGraph.GroupTable
