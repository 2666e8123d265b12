import TraceGraph.Json
import TraceGraph.MetaModel
import TraceGraph.Numeral.Integer

/-! A runtime declares its capabilities as JSON: the types of activities, passive entities and dynamic
scopes, each with an id, and the operations with a marker and the type of their counterpart. Reading
them gives the meta-model. Numbers may stand there in any form that has an integer value, and a list
of definitions may be anything that can be gone through; whatever else stands there is an error. -/

namespace TraceGraph.Capabilities

open Numeral

inductive Error
  | notAnObject (given : Json)
  | notIterable (given : Json)
  | notSubscriptable (given : Json)
  | textIndex
  | listIndex
  | missingKey (key : String)
  | notANumber (given : Json)
  | infinite
  | nan
  | integer (e : IntegerError)
  | sequencing (e : SequencingError)

def Error.message : Error → String
  | notAnObject v => s!"'{v.typeName}' object has no attribute 'get'"
  | notIterable v => s!"'{v.typeName}' object is not iterable"
  | notSubscriptable v => s!"'{v.typeName}' object is not subscriptable"
  | textIndex => "string indices must be integers, not 'str'"
  | listIndex => "list indices must be integers or slices, not str"
  | missingKey key => Text.quoted key
  | notANumber v =>
    s!"int() argument must be a string, a bytes-like object or a real number, not '{v.typeName}'"
  | infinite => "cannot convert float infinity to integer"
  | nan => "cannot convert float NaN to integer"
  | integer e => e.message
  | sequencing e => e.message

/-- The integer that a value stands for: a float is cut toward zero, a text is read as a number, and
the truth values count as 1 and 0. -/
def integer (v : Json) : Except Error Int :=
  match v with
  | .int n => .ok n
  | .bool b => .ok (if b then 1 else 0)
  | .text s => (Numeral.integer s).mapError .integer
  | .illFormed t => (Numeral.integerOfPoints t.points).mapError .integer
  | .float .nan => .error .nan
  | .float x =>
    match x.truncate? with
    | some n => .ok n
    | none => .error .infinite
  | _ => .error (.notANumber v)

/-- The member of a definition under a key. -/
def field (key : String) (v : Json) : Except Error Json :=
  match v with
  | .object ms =>
    match (Json.object ms).member? key with
    | some w => .ok w
    | none => .error (.missingKey key)
  | .text _ => .error .textIndex
  | .illFormed _ => .error .textIndex
  | .list _ => .error .listIndex
  | _ => .error (.notSubscriptable v)

def integerField (key : String) (v : Json) : Except Error Int := do integer (← field key v)

/-- What a list of definitions goes through: its items, the characters of a text, or the keys of an
object. -/
def elements (v : Json) : Except Error (List Json) :=
  match v with
  | .list items => .ok items
  | .text s => .ok (s.toList.map fun c => .text (String.singleton c))
  | .illFormed t => .ok (t.points.map fun p => .ofCodePoints [p])
  | .object ms => .ok (ms.map fun m => .text m.1)
  | _ => .error (.notIterable v)

/-- The definitions under a key; none if the key is absent. -/
def definitions (capabilities : Json) (key : String) : Except Error (List Json) :=
  match capabilities.member? key with
  | some v => elements v
  | none => .ok []

/-- Where the entity types of each kind are declared; a later list overrides an earlier one. -/
def kindLists : List (String × Kind) :=
  [("activities", .activity), ("passiveEntities", .passiveEntity), ("dynamicScopes", .dynamicScope)]

/-- The kinds of the declared types, read from the lists given in order. -/
def declaredKinds (capabilities : Json) : Except Error (Table Int Kind) :=
  kindLists.foldlM (fun kinds list => do
    (← definitions capabilities list.1).foldlM
      (fun kinds d => return kinds.set (← integerField "id" d) list.2) kinds) Table.empty

def operation (counterpart : String) (v : Json) : Except Error MetaModel.OpDefinition := do
  let marker ← integerField "marker" v
  let other ← integerField counterpart v
  return ⟨marker, other⟩

def operations (capabilities : Json) (key counterpart : String) :
    Except Error (List MetaModel.OpDefinition) := do
  (← definitions capabilities key).mapM (operation counterpart)

/-- All declarations are read before any operation is resolved. -/
def metaModel (capabilities : Json) : Except Error MetaModel :=
  match capabilities with
  | .object _ => do
    let kinds ← declaredKinds capabilities
    let sends ← operations capabilities "sendOps" "target"
    let receives ← operations capabilities "receiveOps" "source"
    (MetaModel.ofDefinitions kinds sends receives).mapError .sequencing
  | v => .error (.notAnObject v)

end TraceGraph.Capabilities
