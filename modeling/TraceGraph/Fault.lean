import TraceGraph.MetaModel
import TraceGraph.Number

/-! What can go wrong when the graph is used: a call that breaks its sequencing, a look-up of a group
that does not exist, a group without members, and a coordinate that does not compare with numbers. -/

namespace TraceGraph

inductive Fault
  | sequencing (e : SequencingError)
  | unknownGroup (key : String)
  | emptyGroup
  | incomparable (given : Json)

def Fault.message : Fault → String
  | sequencing e => e.message
  | unknownGroup key => Text.quoted key
  | emptyGroup => "list index out of range"
  | incomparable v => s!"'>' not supported between instances of '{v.typeName}' and 'int'"

/-- A coordinate as it is given; it must compare with numbers. -/
def Fault.comparable (given : Json) : Except Fault Number :=
  match Number.ofJson? given with
  | some c => .ok c
  | none => .error (.incomparable given)

end TraceGraph
