import TraceGraph.Kind
import TraceGraph.Numeral.Decimal

/-! Identifiers of nodes: the data id ties a node to trace data and code, the view id to its graphics,
and a query selects entities in the code view. They show integers of any length. Where the digits of
written integers are bounded, an id with more has no data id and stands in no query. -/

namespace TraceGraph.Identifier

/-- The data id of a traced thing, whose own id may have any number of digits. -/
def entity (id : Int) : String := "e" ++ toString id

/-- The data id where the digits of written integers may be bounded. -/
def entityWithin (digits : Option Nat) (id : Int) : Except Numeral.Oversize String :=
  (Numeral.decimal digits id).map ("e" ++ ·)

/-- The mark in front of a group's number; dynamic scopes have no groups. -/
def groupMark? : Kind → Option String
  | .activity => some "ag"
  | .passiveEntity => some "pg"
  | .dynamicScope => none

/-- What is said of a group id that was asked for a dynamic scope. -/
def noGroupMark : String := "<EntityRefType.DYNAMIC_SCOPE: 'dynamic_scope'>"

def group? (kind : Kind) (id : Int) : Option String := (groupMark? kind).map (· ++ toString id)

/-- The id for graphics, kept apart from data ids. -/
def view (dataId : String) : String := "sv-" ++ dataId

/-- The tokens of the given entities with commas between them, such as “#e1,#e4”. The ids may have any
number of digits. -/
def query (ids : List Int) : String := ",".intercalate (ids.map fun id => "#" ++ entity id)

/-- The query where the digits of written integers may be bounded; the first id with more refuses it. -/
def queryWithin (digits : Option Nat) (ids : List Int) : Except Numeral.Oversize String :=
  (ids.mapM fun id => (entityWithin digits id).map ("#" ++ ·)).map (",".intercalate ·)

end TraceGraph.Identifier
