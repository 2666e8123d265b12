import TraceGraph.Text.Quoted

/-! The kinds of things that trace events refer to. -/

namespace TraceGraph

/-- An activity runs and performs operations, a passive entity is operated on, and a dynamic scope is
a stretch of execution, which has no place in the graph. -/
inductive Kind
  | activity
  | passiveEntity
  | dynamicScope
  deriving DecidableEq, Repr

namespace Kind

def name : Kind → String
  | activity => "activity"
  | passiveEntity => "passive_entity"
  | dynamicScope => "dynamic_scope"

def ofName? (s : String) : Option Kind :=
  if s = "activity" then some activity
  else if s = "passive_entity" then some passiveEntity
  else if s = "dynamic_scope" then some dynamicScope
  else none

/-- What is said of a text that names no kind. -/
def unknownName (s : String) : String := Text.quoted s ++ " is not a valid EntityRefType"

theorem ofName?_name (k : Kind) : ofName? k.name = some k := by cases k <;> decide

end Kind

/-- One thing of the traced program. Ids are unique within a kind only. -/
structure EntityRef where
  kind : Kind
  id : Int
  deriving DecidableEq, Repr

end TraceGraph
