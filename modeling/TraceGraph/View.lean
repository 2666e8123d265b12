import TraceGraph.Population
import TraceGraph.Tally

/-! The live view of a traced program. Batches are absorbed into the populations of activities and
passive entities and into message counts between single things; crowded groups are folded into one node
only when nodes or links are read, so the counts stay exact. A batch is absorbed as a whole or not at
all. -/

namespace TraceGraph

/-- A group of activities is crowded beyond this many. -/
def activityThreshold : Int := 4

def passiveThreshold : Int := 3

structure View where
  metaModel : Option MetaModel
  activities : Population Activity
  passives : Population PassiveEntity
  /-- Messages from thing to thing, whatever nodes show them. -/
  messages : Tally EntityRef
  /-- The most messages between two things. -/
  maxSends : Int
  /-- The most messages on a link when links were last read. -/
  maxLink : Int

/-- The populations and counters of a view. -/
structure Stats where
  activities : Nat
  passiveEntities : Nat
  activityGroups : Nat
  passiveEntityGroups : Nat
  promotedGroups : Nat
  messagePairs : Nat
  messages : Int
  deriving DecidableEq

structure Link where
  source : NodeRef
  target : NodeRef
  messageCount : Int
  creation : Bool
  deriving DecidableEq

/-- The view after a batch was put to it, whether the batch was absorbed, and the records written. -/
structure Intake where
  view : View
  answer : Except SequencingError Unit
  log : List Log.Record

/-- A node of either kind. -/
inductive AnyNode
  | activity (n : Node Activity)
  | passive (n : Node PassiveEntity)

def AnyNode.summary? : AnyNode → Option NodeSummary
  | activity n => n.summary?
  | passive n => n.summary?

/-- The data id of a referenced node. -/
def NodeRef.dataId : NodeRef → String
  | entity e => Identifier.entity e.id
  | group kind id => (Identifier.group? kind id).getD ""

namespace View

/-- A view without trace data. -/
def new (m : Option MetaModel) : View :=
  ⟨m, Population.empty activityThreshold, Population.empty passiveThreshold, Tally.empty, 0, 0⟩

def setMetaModel (v : View) (m : Option MetaModel) : View := { v with metaModel := m }

/-- Discard all trace data; the meta-model stays. -/
def reset (v : View) : View := new v.metaModel

/-! ### Batches -/

/-- Whether an id is known, or announced by the batch itself. Dynamic scopes are never known. -/
def knows (v : View) (b : Batch) : Kind → Int → Bool
  | .activity, id => v.activities.knows id || b.activities.any (·.id = id)
  | .passiveEntity, id => v.passives.knows id || b.passiveEntities.any (·.id = id)
  | .dynamicScope, _ => false

def require (v : View) (b : Batch) (kind : Kind) (id : Int) : Except SequencingError Unit :=
  if kind = .dynamicScope then .error (.unresolvable kind id)
  else if v.knows b kind id then .ok ()
  else .error (.unknownEntity kind id)

/-- Check all references of a batch in the order in which the batch is applied; an operation's performer
comes before its counterpart. -/
def check (v : View) (m : MetaModel) (b : Batch) : Except SequencingError Unit := do
  b.activities.forM fun a =>
    match a.creator with
    | none => pure ()
    | some id => v.require b .activity id
  b.passiveEntities.forM fun e => v.require b .activity e.creator
  b.sends.forM fun s => do
    v.require b .activity s.performer
    v.require b (← m.targetKind s.type) s.target
  b.receives.forM fun r => do
    v.require b .activity r.performer
    v.require b (← m.sourceKind r.type) r.source

/-- The thing that a send operation's message comes from, and the thing that it goes to. -/
def sendEnds (m : MetaModel) (s : SendOp) : Except SequencingError (EntityRef × EntityRef) :=
  (m.targetKind s.type).map fun kind => (⟨.activity, s.performer⟩, ⟨kind, s.target⟩)

/-- The thing that a received message comes from, and the thing that it goes to. -/
def receiveEnds (m : MetaModel) (r : ReceiveOp) : Except SequencingError (EntityRef × EntityRef) :=
  (m.sourceKind r.type).map fun kind => (⟨kind, r.source⟩, ⟨.activity, r.performer⟩)

def countMessage (v : View) (e : EntityRef × EntityRef) : View :=
  let messages := v.messages.add e.1 e.2 1
  { v with messages, maxSends := max v.maxSends (messages.count e.1 e.2) }

/-- Count messages one after the other. Counting breaks off at a message whose ends were not found, and
what was counted before stays. -/
def countMessages : List (Except SequencingError (EntityRef × EntityRef)) → View →
    View × Except SequencingError Unit
  | [], v => (v, .ok ())
  | .error e :: _, v => (v, .error e)
  | .ok ends :: rest, v => countMessages rest (v.countMessage ends)

/-- Take in what a batch announces and count its messages; their ends are looked up anew. -/
def apply (v : View) (m : MetaModel) (b : Batch) : View × Except SequencingError Unit :=
  let v := { v with
    activities := v.activities.announceAll b.activities
    passives := v.passives.announceAll b.passiveEntities }
  countMessages (b.sends.map (sendEnds m) ++ b.receives.map (receiveEnds m)) v

/-- The logger of this view's records. -/
def logger : String := "sysview.view.system_view"

def emptyBatchRecord : Log.Record := ⟨Log.Level.debug, logger, "Empty trace batch skipped", none⟩

def appliedRecord (b : Batch) : Log.Record :=
  { level := Log.Level.debug
    logger
    message := "Trace data applied"
    context := some (.object [
      ("activities", .int b.activities.length),
      ("passive_entities", .int b.passiveEntities.length),
      ("send_ops", .int b.sends.length),
      ("receive_ops", .int b.receives.length)]) }

/-- Absorb a batch. It is checked first, and if a reference cannot be resolved nothing is absorbed. -/
def absorb (v : View) (b : Batch) : Intake :=
  match v.metaModel with
  | none => ⟨v, .error .noMetaModel, []⟩
  | some m =>
    if b.isEmpty then ⟨v, .ok (), [emptyBatchRecord]⟩
    else
      match v.check m b with
      | .error e => ⟨v, .error e, []⟩
      | .ok () =>
        match v.apply m b with
        | (v, .error e) => ⟨v, .error e, []⟩
        | (v, .ok ()) => ⟨v, .ok (), [appliedRecord b]⟩

/-- The view after a batch that it absorbs, with the records written. -/
def ingest (v : View) (b : Batch) : Except SequencingError (View × List Log.Record) :=
  let intake := v.absorb b
  intake.answer.map fun _ => (intake.view, intake.log)

/-! ### Nodes -/

/-- The visible activity nodes; promotes the crowded groups among them. -/
def listActivities (v : View) : Except Fault (View × List NodeRef × List Log.Record) := do
  let (activities, refs, log) ← v.activities.list
  return ({ v with activities }, refs, log)

/-- The visible nodes of passive entities; promotes the crowded groups among them. -/
def listPassives (v : View) : Except Fault (View × List NodeRef × List Log.Record) := do
  let (passives, refs, log) ← v.passives.list
  return ({ v with passives }, refs, log)

/-- The first visible node with a data id, activities before passive entities. -/
def find (v : View) (dataId : String) : Except Fault (View × Option NodeRef × List Log.Record) := do
  let (v, activities, log) ← v.listActivities
  let (v, passives, more) ← v.listPassives
  return (v, (activities ++ passives).find? (·.dataId = dataId), log ++ more)

/-- The node that stands for a thing at present. -/
def visible (v : View) (e : EntityRef) : Except Fault NodeRef :=
  match e.kind with
  | .activity => v.activities.visible e.id
  | .passiveEntity => v.passives.visible e.id
  | .dynamicScope => .error (.sequencing (.noNodes e.kind))

def node? (v : View) : NodeRef → Option AnyNode
  | .entity ⟨.activity, id⟩ => (v.activities.ownNode? id).map .activity
  | .entity ⟨.passiveEntity, id⟩ => (v.passives.ownNode? id).map .passive
  | .group .activity id => (v.activities.groupNode? id).map .activity
  | .group .passiveEntity id => (v.passives.groupNode? id).map .passive
  | _ => none

/-- Assign a coordinate of a node. -/
def assign (v : View) (ref : NodeRef) (axis : Axis) (c : Number) : View :=
  match ref with
  | .entity ⟨.activity, id⟩ => { v with activities := v.activities.assignOwn id axis c }
  | .entity ⟨.passiveEntity, id⟩ => { v with passives := v.passives.assignOwn id axis c }
  | .group .activity id => { v with activities := v.activities.assignGroup id axis c }
  | .group .passiveEntity id => { v with passives := v.passives.assignGroup id axis c }
  | _ => v

/-- Set the running flags of those activities of a node whose id is given. -/
def setRunning (v : View) (ref : NodeRef) (ids : List Int) (running : Bool) : View :=
  match ref with
  | .entity ⟨.activity, id⟩ =>
    if id ∈ ids then { v with activities := v.activities.setOwnRunning id running } else v
  | .group .activity id => { v with activities := v.activities.setGroupRunning id ids running }
  | _ => v

/-! ### Links -/

/-- Promote every crowded group of both kinds. -/
def promoteAll (v : View) : Except Fault (View × List Log.Record) := do
  let (activities, log) ← v.activities.promoteAll
  let (passives, more) ← v.passives.promoteAll
  return ({ v with activities, passives }, log ++ more)

/-- Message counts between the nodes that stand for the things at present. -/
def foldedMessages (v : View) : Except Fault (Tally NodeRef) :=
  v.messages.items.foldlM (fun t (source, target, count) => do
    return t.add (← v.visible source) (← v.visible target) count) Tally.empty

/-- Each creator known to the view with the thing that it created. -/
def creations (v : View) : List (EntityRef × EntityRef) :=
  let pairs {α : Type} [Traced α] (p : Population α) : List (EntityRef × EntityRef) :=
    p.table.entries.filterMap fun (id, e) =>
      (Traced.creator? e.item).map fun creator => (⟨.activity, creator⟩, ⟨Traced.kind α, id⟩)
  pairs v.activities ++ pairs v.passives

/-- How often the node of one thing created a thing of another node. -/
def foldedCreations (v : View) : Except Fault (Tally NodeRef) :=
  v.creations.foldlM (fun t (creator, created) => do
    return t.add (← v.visible creator) (← v.visible created) 1) Tally.empty

def linksOf (creation : Bool) (t : Tally NodeRef) : List Link :=
  t.items.map fun (source, target, count) => ⟨source, target, count, creation⟩

/-- Message links and creation links between the visible nodes. Crowded groups are promoted first, so
the links do not depend on earlier listings. -/
def links (v : View) : Except Fault (View × List Link × List Log.Record) := do
  let (v, log) ← v.promoteAll
  let messages ← v.foldedMessages
  let v := { v with maxLink := messages.max }
  let creations ← v.foldedCreations
  return (v, linksOf false messages ++ linksOf true creations, log)

def stats (v : View) : Stats :=
  { activities := v.activities.table.size
    passiveEntities := v.passives.table.size
    activityGroups := v.activities.groups.size
    passiveEntityGroups := v.passives.groups.size
    promotedGroups := v.activities.groups.promotedCount + v.passives.groups.promotedCount
    messagePairs := v.messages.size
    messages := v.messages.total }

end View

/-- The counters by name, in the order in which they are shown. -/
def Stats.fields (s : Stats) : List (String × Int) :=
  [("activities", s.activities), ("passive_entities", s.passiveEntities),
    ("activity_groups", s.activityGroups), ("passive_entity_groups", s.passiveEntityGroups),
    ("promoted_groups", s.promotedGroups), ("message_pairs", s.messagePairs), ("messages", s.messages)]

def Stats.toJson (s : Stats) : Json := .object (s.fields.map fun f => (f.1, .int f.2))

end TraceGraph
