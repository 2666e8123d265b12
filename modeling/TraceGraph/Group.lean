import TraceGraph.Fault
import TraceGraph.Log.Record
import TraceGraph.Node

/-! Groups of traced things with one key, and the table of all groups of a kind. A group gets a node of
its own when it is promoted, at a place that depends on its size and the number of groups then, and
keeps that node from then on. Tables only grow. -/

namespace TraceGraph

structure Group (α : Type) where
  id : Nat
  members : List α
  /-- Where the group's node stands, once it has one. -/
  place : Option Position

namespace Group

variable {α : Type}

def size (g : Group α) : Nat := g.members.length

def isPromoted (g : Group α) : Bool := g.place.isSome

def node? (g : Group α) : Option (Node α) := g.place.map fun p => ⟨.group g.id g.members, p⟩

def add (g : Group α) (a : α) : Group α := { g with members := g.members ++ [a] }

def mapMembers (f : α → α) (g : Group α) : Group α := { g with members := g.members.map f }

def set (g : Group α) (axis : Axis) (c : Number) : Group α :=
  { g with place := g.place.map (·.set axis c) }

/-- Give the group a node unless it has one already. -/
def promote (g : Group α) (groups : Int) : Group α :=
  match g.place with
  | some _ => g
  | none => { g with place := some (Position.seed g.size groups) }

end Group

structure GroupTable (α : Type) where
  kind : Kind
  /-- A group is crowded if it has more members than this. -/
  threshold : Int
  groups : Table String (Group α)

namespace GroupTable

variable {α : Type}

def empty (kind : Kind) (threshold : Int) : GroupTable α := ⟨kind, threshold, Table.empty⟩

def size (t : GroupTable α) : Nat := t.groups.size

def get? (t : GroupTable α) (key : String) : Option (Group α) := t.groups.get? key

def get (t : GroupTable α) (key : String) : Except Fault (Group α) :=
  match t.get? key with
  | some g => .ok g
  | none => .error (.unknownGroup key)

def toList (t : GroupTable α) : List (Group α) := t.groups.values

/-- The group of the given number. -/
def byId? (t : GroupTable α) (id : Nat) : Option (Group α) := t.toList.find? (·.id = id)

/-- The group of a key after one more member has come; a new group takes the next number. -/
def grown (t : GroupTable α) (key : String) (a : α) : Group α :=
  ((t.get? key).getD ⟨t.size, [], none⟩).add a

def add (t : GroupTable α) (key : String) (a : α) : GroupTable α :=
  { t with groups := t.groups.set key (t.grown key a) }

def isCrowded (t : GroupTable α) (g : Group α) : Bool := t.threshold < g.size

/-- Change the group of a key. -/
def modify (t : GroupTable α) (key : String) (f : Group α → Group α) : GroupTable α :=
  { t with groups := t.groups.modify key f }

def promotionRecord (kind : Kind) (g : Group α) : Log.Record :=
  let node := (Identifier.group? kind g.id).getD ""
  { level := Log.Level.debug
    logger := "sysview.view.groups"
    message := s!"Group promoted: {node} with {g.size} members"
    context := none }

/-- The table after the group of a key has been promoted, with the record of it if it was not before.
Dynamic scopes have no nodes. -/
def promote (t : GroupTable α) (key : String) (groups : Int) :
    Except Fault (GroupTable α × List Log.Record) := do
  let g ← t.get key
  if g.isPromoted then return (t, [])
  else if t.kind = .dynamicScope then throw (.sequencing (.noGroupNodes t.kind))
  else return (t.modify key (·.promote groups), [promotionRecord t.kind g])

/-- Promote the groups of the given keys one after the other. -/
def promoteKeys (t : GroupTable α) : List String → Except Fault (GroupTable α × List Log.Record)
  | [] => .ok (t, [])
  | key :: keys => do
    let (t, log) ← t.promote key t.size
    let (t, more) ← t.promoteKeys keys
    return (t, log ++ more)

def crowdedKeys (t : GroupTable α) : List String :=
  (t.groups.entries.filter fun e => t.isCrowded e.2).map Prod.fst

/-- Promote every crowded group. -/
def promoteAll (t : GroupTable α) : Except Fault (GroupTable α × List Log.Record) :=
  t.promoteKeys t.crowdedKeys

/-- The nodes of the crowded groups, as far as they are promoted. -/
def crowdedNodes (t : GroupTable α) : List (Node α) :=
  (t.toList.filter t.isCrowded).filterMap Group.node?

def promotedCount (t : GroupTable α) : Nat := t.toList.countP Group.isPromoted

end GroupTable

end TraceGraph
