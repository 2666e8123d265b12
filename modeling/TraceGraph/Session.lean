import TraceGraph.Capabilities
import TraceGraph.Json.Display
import TraceGraph.Json.Reader
import TraceGraph.View.Run

/-! One debugging session. It has a view from when a meta-model is installed, directly or from the
configured capabilities file at its start, until it is stopped. -/

namespace TraceGraph

/-- The text of each file that exists, by absolute path. -/
abbrev Files := String → Option String

/-- A link by the data ids of its ends. -/
structure LinkSummary where
  source : String
  target : String
  messageCount : Int
  creation : Bool
  deriving DecidableEq

/-- The graph as it is shown to others. -/
structure Snapshot where
  activityNodes : List NodeSummary
  entityNodes : List NodeSummary
  links : List LinkSummary
  maxSends : Int
  maxLink : Int

def Link.summary (l : Link) : LinkSummary :=
  ⟨l.source.dataId, l.target.dataId, l.messageCount, l.creation⟩

namespace View

def summary (v : View) (ref : NodeRef) : Except Fault NodeSummary :=
  match (v.node? ref).bind AnyNode.summary? with
  | some s => .ok s
  | none => .error .emptyGroup

def snapshot (v : View) : Except Fault (View × Snapshot × List Log.Record) := do
  let (v, activities, log) ← v.listActivities
  let (v, passives, more) ← v.listPassives
  let (v, links, rest) ← v.links
  let activityNodes ← activities.mapM v.summary
  let entityNodes ← passives.mapM v.summary
  return (v, ⟨activityNodes, entityNodes, links.map Link.summary, v.maxSends, v.maxLink⟩,
    log ++ more ++ rest)

end View

structure Session where
  capabilitiesPath : Option String
  view : Option View

namespace Session

inductive Error
  | notInstalled
  | noFile
  | malformedFile
  /-- A container of the file is nested too deep. -/
  | deepFile (container : String)
  | integer (e : Numeral.IntegerError)
  | capabilities (e : Capabilities.Error)
  | fault (f : Fault)

def Error.message : Error → String
  | notInstalled => "Meta-model not installed"
  | noFile => "no such file"
  | malformedFile => "malformed JSON"
  | deepFile container =>
    s!"maximum recursion depth exceeded while decoding a JSON {container} from a unicode string"
  | integer e => e.message
  | capabilities e => e.message
  | fault f => f.message

/-- The session after an operation, what was answered, and the records written. -/
structure Reply (α : Type) where
  session : Session
  answer : Except Error α
  log : List Log.Record

def new (capabilitiesPath : Option String) : Session := ⟨capabilitiesPath, none⟩

def info (message : String) (context : Option Json) : Log.Record :=
  ⟨Log.Level.info, "sysview.app", message, context⟩

/-- Install or replace the meta-model; a view that exists keeps its trace data. -/
def install (s : Session) (m : MetaModel) : Reply Unit :=
  let view := match s.view with
    | none => View.new (some m)
    | some v => v.setMetaModel (some m)
  { session := { s with view := some view }
    answer := .ok ()
    log := [info "Meta-model installed" (some (.object [
      ("send_ops", .int m.sends.size), ("receive_ops", .int m.receives.size)]))] }

/-- How deep the lists and objects of a capabilities file may be nested. -/
def nestingLimit : Nat := 980

/-- The meta-model that a capabilities file declares. -/
def fileMetaModel (files : Files) (path : String) : Except Error MetaModel :=
  match files path with
  | none => .error .noFile
  | some text =>
    match Json.readWithin (some nestingLimit) text with
    | .error .malformed => .error .malformedFile
    | .error (.integer e) => .error (.integer e)
    | .error .deepList => .error (.deepFile "array")
    | .error .deepObject => .error (.deepFile "object")
    | .ok capabilities => (Capabilities.metaModel capabilities).mapError .capabilities

/-- Install the meta-model of the configured capabilities file, if there is one. A start that fails
leaves the session as it was. -/
def start (s : Session) (files : Files) : Reply Unit :=
  let starting := info "Starting application" none
  match s.capabilitiesPath with
  | none => ⟨s, .ok (), [starting, info "Waiting for runtime capabilities" none]⟩
  | some path =>
    match fileMetaModel files path with
    | .error e => ⟨s, .error e, [starting]⟩
    | .ok m =>
      let installed := s.install m
      { installed with
        log := [starting] ++ installed.log ++ [info s!"Meta-model loaded from {path}" none] }

def stop (s : Session) : Reply Unit :=
  { session := { s with view := none }
    answer := .ok ()
    log := match s.view with
      | some v => [info s!"Stopping with {v.stats.toJson.display}" none]
      | none => [] }

/-- Discard all trace data; the meta-model stays installed. -/
def reset (s : Session) : Reply Unit :=
  match s.view with
  | some v => ⟨{ s with view := some v.reset }, .ok (), [info "System view reset" none]⟩
  | none => ⟨s, .ok (), []⟩

/-- Answer from the view, if there is one. -/
def withView (s : Session) (f : View → View × Except Error α × List Log.Record) : Reply α :=
  match s.view with
  | none => ⟨s, .error .notInstalled, []⟩
  | some v =>
    let (v, answer, log) := f v
    ⟨{ s with view := some v }, answer, log⟩

def ingest (s : Session) (b : Batch) : Reply Unit :=
  s.withView fun v =>
    let intake := v.absorb b
    (intake.view, intake.answer.mapError fun e => .fault (.sequencing e), intake.log)

def snapshot (s : Session) : Reply Snapshot :=
  s.withView fun v =>
    match v.snapshot with
    | .ok (v', shot, log) => (v', .ok shot, log)
    | .error e => (v, .error (.fault e), [])

def stats (s : Session) : Reply Stats := s.withView fun v => (v, .ok v.stats, [])

/-- Move the visible node with a data id; nothing is answered if there is none. -/
def move (s : Session) (dataId : String) (x y : Json) : Reply (Option NodeSummary) :=
  s.withView fun v =>
    let r := v.move dataId (some x) (some y)
    let answer := match r.answer with
      | .error e => .error (.fault e)
      | .ok (.node (some ref)) => ((r.view.summary ref).map some).mapError .fault
      | .ok _ => .ok none
    (r.view, answer, r.log)

/-! ### Runs -/

inductive Op
  | start (files : Files)
  | stop
  | reset
  | install (m : MetaModel)
  | ingest (b : Batch)
  | snapshot
  | stats
  | move (dataId : String) (x y : Json)

/-- The session after an operation. -/
def Op.run (s : Session) : Op → Session
  | .start files => (s.start files).session
  | .stop => s.stop.session
  | .reset => s.reset.session
  | .install m => (s.install m).session
  | .ingest b => (s.ingest b).session
  | .snapshot => s.snapshot.session
  | .stats => s.stats.session
  | .move dataId x y => (s.move dataId x y).session

def run (ops : List Op) (s : Session) : Session := ops.foldl Op.run s

@[simp] theorem run_nil (s : Session) : run [] s = s := rfl

@[simp] theorem run_cons (op : Op) (ops : List Op) (s : Session) :
    run (op :: ops) s = run ops (op.run s) := rfl

theorem run_append (ops more : List Op) (s : Session) : run (ops ++ more) s = run more (run ops s) :=
  List.foldl_append

end Session

end TraceGraph
