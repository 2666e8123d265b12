import TraceGraph.Position
import TraceGraph.Event
import TraceGraph.Identifier

/-! Nodes of the graph: one traced thing, or a group of them that is shown as one. The first member
represents a group in name, type and id. -/

namespace TraceGraph

/-- Which node of the current graph is meant. -/
inductive NodeRef
  | entity (e : EntityRef)
  | group (kind : Kind) (id : Nat)
  deriving DecidableEq

inductive Subject (α : Type)
  | single (item : α)
  | group (id : Int) (members : List α)

structure Node (α : Type) where
  subject : Subject α
  position : Position

namespace Node

variable {α : Type}

/-- The things that the node stands for, in order of arrival. -/
def members (n : Node α) : List α :=
  match n.subject with
  | .single a => [a]
  | .group _ as => as

def isGroup (n : Node α) : Bool :=
  match n.subject with
  | .single _ => false
  | .group _ _ => true

def size (n : Node α) : Nat := n.members.length

def representative? (n : Node α) : Option α := n.members.head?

def set (n : Node α) (axis : Axis) (c : Number) : Node α :=
  { n with position := n.position.set axis c }

/-- A further member of a group. -/
def append (n : Node α) (a : α) : Node α :=
  match n.subject with
  | .single _ => n
  | .group id as => { n with subject := .group id (as ++ [a]) }

variable [Traced α]

def dataId (n : Node α) : String :=
  match n.subject with
  | .single a => Identifier.entity (Traced.id a)
  | .group id _ => (Identifier.group? (Traced.kind α) id).getD ""

def viewId (n : Node α) : String := Identifier.view n.dataId

/-- The query that selects all members in the code view. -/
def query (n : Node α) : String := Identifier.query (n.members.map Traced.id)

/-- The same query where the digits of written integers may be bounded. -/
def queryWithin (digits : Option Nat) (n : Node α) : Except Numeral.Oversize String :=
  Identifier.queryWithin digits (n.members.map Traced.id)

/-- The node's class, data id and size between angle brackets. -/
def describe (n : Node α) : String :=
  let thing := match Traced.kind α with
    | .activity => "Activity"
    | _ => "PassiveEntity"
  let shape := if n.isGroup then "GroupNode" else "Node"
  s!"<{thing}{shape} {n.dataId} size={n.size}>"

end Node

/-- Whether any activity of the node is running. -/
def Node.isRunning (n : Node Activity) : Bool := n.members.any Activity.running

/-- A node as it is shown to others. -/
structure NodeSummary where
  dataId : String
  viewId : String
  kind : Kind
  isGroup : Bool
  size : Nat
  label : String
  query : String
  x : Number
  y : Number

/-- The summary is labelled with what the members are grouped by; a group without members has none. -/
def Node.summary? {α : Type} [Traced α] (n : Node α) : Option NodeSummary :=
  n.representative?.map fun a =>
    { dataId := n.dataId
      viewId := n.viewId
      kind := Traced.kind α
      isGroup := n.isGroup
      size := n.size
      label := Traced.key a
      query := n.query
      x := n.position.x
      y := n.position.y }

end TraceGraph
