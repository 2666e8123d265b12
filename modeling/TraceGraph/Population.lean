import TraceGraph.Group

/-! All things of one kind that have been announced: the latest announcement of each id with the place
of its own node, and the groups, which hold every announcement. An id that is announced again keeps its
place in the order but not its position. -/

namespace TraceGraph

/-- A traced thing with the place of its own node. -/
structure Placed (α : Type) where
  item : α
  position : Position

structure Population (α : Type) where
  table : Table Int (Placed α)
  groups : GroupTable α

namespace Population

variable {α : Type} [Traced α]

def empty (threshold : Int) : Population α := ⟨Table.empty, GroupTable.empty (Traced.kind α) threshold⟩

def knows (p : Population α) (id : Int) : Bool := p.table.contains id

/-- Take in one announcement. The seed counts the groups as they were before it. -/
def announce (p : Population α) (a : α) : Population α :=
  let key := Traced.key a
  let size := (p.groups.grown key a).size
  { table := p.table.set (Traced.id a) ⟨a, Position.seed size p.groups.size⟩
    groups := p.groups.add key a }

def announceAll (as : List α) (p : Population α) : Population α := as.foldl announce p

@[simp] theorem announceAll_nil (p : Population α) : announceAll [] p = p := rfl

@[simp] theorem announceAll_cons (a : α) (as : List α) (p : Population α) :
    announceAll (a :: as) p = announceAll as (p.announce a) := rfl

theorem announceAll_append (as bs : List α) (p : Population α) :
    announceAll (as ++ bs) p = announceAll bs (announceAll as p) := List.foldl_append

/-- The node of one thing, whatever its group. -/
def ownRef (a : α) : NodeRef := .entity ⟨Traced.kind α, Traced.id a⟩

/-- The node of a group. -/
def groupRef (g : Group α) : NodeRef := .group (Traced.kind α) g.id

/-- The node that shows a thing in a listing: that of its group if the group is crowded. -/
def shownBy (p : Population α) (a : α) : Except Fault NodeRef := do
  let g ← p.groups.get (Traced.key a)
  return if p.groups.isCrowded g then groupRef g else ownRef a

/-- The nodes of a listing, each once, in the order in which the things first came. -/
def shown (p : Population α) : Except Fault (List NodeRef) := do
  let refs ← p.table.values.mapM fun e => p.shownBy e.item
  return refs.eraseDups

/-- The keys of the crowded groups that a listing meets, each once. -/
def metKeys (p : Population α) : List String :=
  let keys := p.table.values.map fun e => Traced.key e.item
  (keys.filter fun key => (p.groups.get? key).any p.groups.isCrowded).eraseDups

/-- A listing promotes the groups that it meets. -/
def list (p : Population α) : Except Fault (Population α × List NodeRef × List Log.Record) := do
  let refs ← p.shown
  let (groups, log) ← p.groups.promoteKeys p.metKeys
  return ({ p with groups }, refs, log)

/-- Promote every crowded group, met by a listing or not. -/
def promoteAll (p : Population α) : Except Fault (Population α × List Log.Record) := do
  let (groups, log) ← p.groups.promoteAll
  return ({ p with groups }, log)

/-- The node that stands for an id at present: that of its group if it has one. -/
def visible (p : Population α) (id : Int) : Except Fault NodeRef :=
  match p.table.get? id with
  | none => .error (.sequencing (.unknownEntity (Traced.kind α) id))
  | some e => do
    let g ← p.groups.get (Traced.key e.item)
    return if g.isPromoted then groupRef g else ownRef e.item

def ownNode? (p : Population α) (id : Int) : Option (Node α) :=
  (p.table.get? id).map fun e => ⟨.single e.item, e.position⟩

def groupNode? (p : Population α) (id : Nat) : Option (Node α) :=
  (p.groups.byId? id).bind Group.node?

def assignOwn (p : Population α) (id : Int) (axis : Axis) (c : Number) : Population α :=
  { p with table := p.table.modify id fun e => { e with position := e.position.set axis c } }

def assignGroup (p : Population α) (id : Nat) (axis : Axis) (c : Number) : Population α :=
  match p.groups.groups.entries.find? (·.2.id = id) with
  | some (key, _) => { p with groups := p.groups.modify key (·.set axis c) }
  | none => p

end Population

/-- Change the last element that a test accepts. -/
def modifyLast {α : Type} (test : α → Bool) (f : α → α) : List α → List α
  | [] => []
  | a :: as => if !as.any test && test a then f a :: as else a :: modifyLast test f as

namespace Population

/-- Set the running flag of the activity that an id was last announced as. Its group holds the same
activity. -/
def setOwnRunning (p : Population Activity) (id : Int) (running : Bool) : Population Activity :=
  match p.table.get? id with
  | none => p
  | some e =>
    let f : Activity → Activity := fun a => { a with running }
    { table := p.table.modify id fun e => { e with item := f e.item }
      groups := p.groups.modify e.item.name fun g =>
        { g with members := modifyLast (·.id = id) f g.members } }

/-- Set the running flags of a group's members with the given ids, also where a member is the latest
announcement of its id. -/
def setGroupRunning (p : Population Activity) (groupId : Nat) (ids : List Int) (running : Bool) :
    Population Activity :=
  match p.groups.groups.entries.find? (·.2.id = groupId) with
  | none => p
  | some (key, _) =>
    let f : Activity → Activity := fun a => if a.id ∈ ids then { a with running } else a
    { table :=
        ids.foldl (fun t id => t.modify id fun e =>
          if e.item.name = key then { e with item := f e.item } else e) p.table
      groups := p.groups.modify key (·.mapMembers f) }

end Population

end TraceGraph
