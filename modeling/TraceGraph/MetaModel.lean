import TraceGraph.Kind
import TraceGraph.Table

/-! The meta-model of a runtime: of which kind the target of each type of send operation is, and the
source of each type of receive operation. -/

namespace TraceGraph

/-- A call out of order, or a reference that cannot be resolved. -/
inductive SequencingError
  | noMetaModel
  | unknownEntity (kind : Kind) (id : Int)
  | unresolvable (kind : Kind) (id : Int)
  | unknownSendType (type : Int)
  | unknownReceiveType (type : Int)
  | undeclaredType (type : Int)
  | noNodes (kind : Kind)
  | noGroupNodes (kind : Kind)
  deriving DecidableEq

/-- What the error says. The integers may have any number of digits; an interpreter that bounds the digits
it writes fails beyond 4300 with another error. -/
def SequencingError.message : SequencingError → String
  | noMetaModel => "Meta-model not yet installed. Is there a race?"
  | unknownEntity kind id => s!"Unknown {kind.name} {id}"
  | unresolvable kind id => s!"Cannot resolve {kind.name} reference {id}"
  | unknownSendType type => s!"Unknown send op type: {type}"
  | unknownReceiveType type => s!"Unknown receive op type: {type}"
  | undeclaredType type => s!"Entity type {type} is not declared in capabilities"
  | noNodes kind => s!"No nodes for {kind.name}"
  | noGroupNodes kind => s!"No group nodes for {kind.name}"

structure MetaModel where
  sends : Table Int Kind
  receives : Table Int Kind

namespace MetaModel

def targetKind (m : MetaModel) (type : Int) : Except SequencingError Kind :=
  match m.sends.get? type with
  | some kind => .ok kind
  | none => .error (.unknownSendType type)

def sourceKind (m : MetaModel) (type : Int) : Except SequencingError Kind :=
  match m.receives.get? type with
  | some kind => .ok kind
  | none => .error (.unknownReceiveType type)

/-- An operation type by its marker, with the entity type of its counterpart. -/
structure OpDefinition where
  marker : Int
  counterpart : Int

def kindOf (kinds : Table Int Kind) (type : Int) : Except SequencingError Kind :=
  match kinds.get? type with
  | some kind => .ok kind
  | none => .error (.undeclaredType type)

/-- The kind of the counterpart by operation type; the last definition of a marker counts. -/
def resolve (kinds : Table Int Kind) (ops : List OpDefinition) :
    Except SequencingError (Table Int Kind) :=
  ops.foldlM (fun t op => return t.set op.marker (← kindOf kinds op.counterpart)) Table.empty

def ofDefinitions (kinds : Table Int Kind) (sends receives : List OpDefinition) :
    Except SequencingError MetaModel := do
  let sends ← resolve kinds sends
  let receives ← resolve kinds receives
  return ⟨sends, receives⟩

end MetaModel

end TraceGraph
