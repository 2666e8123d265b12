import TraceGraph.Kind

/-! What a traced program announces: activities, passive entities with the place in the source text that
creates them, and the send and receive operations between them, all in batches. -/

namespace TraceGraph

/-- A section of a source file. -/
structure SourceRange where
  uri : String
  startLine : Int
  startColumn : Int
  charLength : Int
  deriving DecidableEq

/-- The four fields with colons between them. The integers may have any number of digits; an interpreter
that bounds the digits it writes has no such text beyond 4300. -/
def SourceRange.locationId (r : SourceRange) : String :=
  r.uri ++ ":" ++ toString r.startLine ++ ":" ++ toString r.startColumn ++ ":" ++ toString r.charLength

/-- An activity has no creator only if it is the root of the program. -/
structure Activity where
  id : Int
  name : String
  type : Int
  creator : Option Int
  running : Bool
  deriving DecidableEq

structure PassiveEntity where
  id : Int
  type : Int
  origin : SourceRange
  creator : Int
  deriving DecidableEq

/-- The meta-model gives the kind of the target by the operation's type. -/
structure SendOp where
  type : Int
  performer : Int
  target : Int
  deriving DecidableEq

/-- The meta-model gives the kind of the source by the operation's type. -/
structure ReceiveOp where
  type : Int
  performer : Int
  source : Int
  deriving DecidableEq

structure Batch where
  activities : List Activity
  passiveEntities : List PassiveEntity
  sends : List SendOp
  receives : List ReceiveOp
  deriving DecidableEq

namespace Batch

def empty : Batch := ⟨[], [], [], []⟩

def isEmpty (b : Batch) : Bool :=
  b.activities.isEmpty && b.passiveEntities.isEmpty && b.sends.isEmpty && b.receives.isEmpty

/-- The lists of one batch followed by those of another. -/
def append (b c : Batch) : Batch :=
  ⟨b.activities ++ c.activities, b.passiveEntities ++ c.passiveEntities, b.sends ++ c.sends,
    b.receives ++ c.receives⟩

end Batch

/-- What the graph needs to know of a traced thing: the id it is announced under, the text that it is
grouped by and labelled with, its type and its creator. -/
class Traced (α : Type) where
  kind : Kind
  id : α → Int
  key : α → String
  type : α → Int
  creator? : α → Option Int

instance : Traced Activity where
  kind := .activity
  id := Activity.id
  key := Activity.name
  type := Activity.type
  creator? := Activity.creator

instance : Traced PassiveEntity where
  kind := .passiveEntity
  id := PassiveEntity.id
  key e := e.origin.locationId
  type := PassiveEntity.type
  creator? e := some e.creator

end TraceGraph
