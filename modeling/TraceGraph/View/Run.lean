import TraceGraph.View

/-! Runs of a view: the operations that a client performs one after the other, and what each answers.
A refused or failed operation leaves the view as it was, but for a move, which keeps the coordinate
assigned before the one that was refused. -/

namespace TraceGraph.View

inductive Op
  | ingest (b : Batch)
  | setMetaModel (m : Option MetaModel)
  | reset
  | listActivities
  | listPassives
  | links
  | find (dataId : String)
  /-- Assign the coordinates given, x before y, of the visible node with a data id. -/
  | move (dataId : String) (x y : Option Json)
  | setRunning (dataId : String) (ids : List Int) (running : Bool)
  | visible (e : EntityRef)

inductive Answer
  | done
  | refs (rs : List NodeRef)
  | node (r : Option NodeRef)
  | links (ls : List Link)

/-- The view after an operation, what was answered, and the records written. -/
structure Reply where
  view : View
  answer : Except Fault Answer
  log : List Log.Record

def refuse (v : View) (e : Fault) (log : List Log.Record) : Reply := ⟨v, .error e, log⟩

def reply (v : View) (f : α → Answer) : Except Fault (View × α × List Log.Record) → Reply
  | .ok (v, a, log) => ⟨v, .ok (f a), log⟩
  | .error e => v.refuse e []

/-- Assign the coordinate of an axis if a value is given. -/
def assignGiven (v : View) (ref : NodeRef) (axis : Axis) : Option Json → Except Fault View
  | none => .ok v
  | some given => (Fault.comparable given).map (v.assign ref axis)

def move (v : View) (dataId : String) (x y : Option Json) : Reply :=
  match v.find dataId with
  | .error e => v.refuse e []
  | .ok (v, none, log) => ⟨v, .ok (.node none), log⟩
  | .ok (v, some ref, log) =>
    match v.assignGiven ref .x x with
    | .error e => v.refuse e log
    | .ok v =>
      match v.assignGiven ref .y y with
      | .error e => v.refuse e log
      | .ok v => ⟨v, .ok (.node (some ref)), log⟩

def Op.run (v : View) : Op → Reply
  | .ingest b =>
    let intake := v.absorb b
    ⟨intake.view, (intake.answer.map fun _ => .done).mapError .sequencing, intake.log⟩
  | .setMetaModel m => ⟨v.setMetaModel m, .ok .done, []⟩
  | .reset => ⟨v.reset, .ok .done, []⟩
  | .listActivities => v.reply .refs v.listActivities
  | .listPassives => v.reply .refs v.listPassives
  | .links => v.reply .links v.links
  | .find dataId => v.reply .node (v.find dataId)
  | .move dataId x y => v.move dataId x y
  | .setRunning dataId ids running =>
    match v.find dataId with
    | .error e => v.refuse e []
    | .ok (v, none, log) => ⟨v, .ok (.node none), log⟩
    | .ok (v, some ref, log) => ⟨v.setRunning ref ids running, .ok (.node (some ref)), log⟩
  | .visible e => ⟨v, (v.visible e).map fun r => .node (some r), []⟩

/-- The view after a list of operations. -/
def run (ops : List Op) (v : View) : View := ops.foldl (fun v op => (op.run v).view) v

@[simp] theorem run_nil (v : View) : run [] v = v := rfl

@[simp] theorem run_cons (op : Op) (ops : List Op) (v : View) :
    run (op :: ops) v = run ops (op.run v).view := rfl

theorem run_append (ops more : List Op) (v : View) :
    run (ops ++ more) v = run more (run ops v) := List.foldl_append

theorem run_snoc (ops : List Op) (op : Op) (v : View) : run (ops ++ [op]) v = (op.run (run ops v)).view :=
  run_append ops [op] v

end TraceGraph.View
