import TraceGraph.Binary64
import TraceGraph.Text.CodePoint

/-! JSON values. Integers have any size and are kept apart from binary floating-point numbers, and texts
with unpaired surrogates from the others; the members of an object keep their order. -/

namespace TraceGraph

inductive Json
  | null
  | bool (b : Bool)
  | int (n : Int)
  | float (x : Binary64)
  | text (s : String)
  | illFormed (t : Text.IllFormed)
  | list (items : List Json)
  | object (members : List (String × Json))

namespace Json

instance : Inhabited Json := ⟨null⟩

/-- The bounds of a reader or a writer, as far as it has any: how deep lists and objects may be nested, and
how many digits an integer may have. -/
structure Limits where
  levels : Option Nat
  digits : Option Nat

/-- The bounds inside a list or an object. -/
def Limits.inner (limits : Limits) : Limits := { limits with levels := limits.levels.map Nat.pred }

/-- The name of a value's type in error messages. -/
def typeName : Json → String
  | null => "NoneType"
  | bool _ => "bool"
  | int _ => "int"
  | float _ => "float"
  | text _ => "str"
  | illFormed _ => "str"
  | list _ => "list"
  | object _ => "dict"

/-- The member of an object under a key; none for other values. -/
def member? (key : String) : Json → Option Json
  | object ms => (ms.find? (·.1 = key)).map Prod.snd
  | _ => none

def ofInts (ns : List Int) : Json := list (ns.map int)

/-- The text of code points in which the halves of pairs have been put together. -/
def ofCodePoints (ps : List Text.CodePoint) : Json :=
  if h : ps.any Text.CodePoint.isHalf ∧ Text.CodePoint.isJoined ps then illFormed ⟨ps, h.1, h.2⟩
  else text (Text.CodePoint.text ps)

@[simp] theorem ofCodePoints_codePoints (s : String) : ofCodePoints (Text.codePoints s) = text s := by
  have h : (Text.codePoints s).any Text.CodePoint.isHalf = false := by
    simp [Text.codePoints, Text.CodePoint.isHalf]
  simp [ofCodePoints, h]

/-- A text, or null. -/
def ofText? (s : Option String) : Json := (s.map text).getD null

def ofInt? (n : Option Int) : Json := (n.map int).getD null

mutual

/-- Whether standard JSON can write the value: its numbers are finite and its texts well formed. -/
def isStandard : Json → Bool
  | float x => x.isFinite
  | illFormed _ => false
  | list items => isStandardItems items
  | object members => isStandardMembers members
  | _ => true

def isStandardItems : List Json → Bool
  | [] => true
  | v :: vs => isStandard v && isStandardItems vs

def isStandardMembers : List (String × Json) → Bool
  | [] => true
  | (_, v) :: ms => isStandard v && isStandardMembers ms

end

mutual

/-- Whether in every object of the value the keys are distinct. -/
def distinctKeys : Json → Bool
  | list items => distinctKeysItems items
  | object members => decide ((members.map Prod.fst).Nodup) && distinctKeysMembers members
  | _ => true

def distinctKeysItems : List Json → Bool
  | [] => true
  | v :: vs => distinctKeys v && distinctKeysItems vs

def distinctKeysMembers : List (String × Json) → Bool
  | [] => true
  | (_, v) :: ms => distinctKeys v && distinctKeysMembers ms

end

end Json

end TraceGraph
