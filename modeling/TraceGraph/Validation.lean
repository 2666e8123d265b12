import TraceGraph.Json

/-! Checking a JSON value against a form. All issues are collected, in the order of the fields, and each
says where it lies and what was given there. -/

namespace TraceGraph

/-- One step on the way to a value: a field or an index. -/
inductive Place
  | field (name : String)
  | index (i : Nat)
  deriving DecidableEq

inductive Problem
  | missing
  | notText
  /-- A text with unpaired surrogates. -/
  | illFormedText
  | notInteger
  | unreadableInteger
  | oversizedInteger
  | fractionalInteger
  | notFinite
  | notBoolean
  | unreadableBoolean
  | notReal
  | unreadableReal
  | notList
  | notDictionary
  /-- No object where one of the named form is needed. -/
  | notInstance (form : String)
  /-- No object where fields are to be taken from one. -/
  | noFields
  deriving DecidableEq

namespace Problem

/-- The name of a problem's kind. -/
def code : Problem → String
  | missing => "missing"
  | notText => "string_type"
  | illFormedText => "string_unicode"
  | notInteger => "int_type"
  | unreadableInteger => "int_parsing"
  | oversizedInteger => "int_parsing_size"
  | fractionalInteger => "int_from_float"
  | notFinite => "finite_number"
  | notBoolean => "bool_type"
  | unreadableBoolean => "bool_parsing"
  | notReal => "float_type"
  | unreadableReal => "float_parsing"
  | notList => "list_type"
  | notDictionary => "dict_type"
  | notInstance _ => "model_type"
  | noFields => "model_attributes_type"

def message : Problem → String
  | missing => "Field required"
  | notText => "Input should be a valid string"
  | illFormedText => "Input should be a valid string, unable to parse raw data as a unicode string"
  | notInteger => "Input should be a valid integer"
  | unreadableInteger => "Input should be a valid integer, unable to parse string as an integer"
  | oversizedInteger => "Unable to parse input string as an integer, exceeded maximum size"
  | fractionalInteger => "Input should be a valid integer, got a number with a fractional part"
  | notFinite => "Input should be a finite number"
  | notBoolean => "Input should be a valid boolean"
  | unreadableBoolean => "Input should be a valid boolean, unable to interpret input"
  | notReal => "Input should be a valid number"
  | unreadableReal => "Input should be a valid number, unable to parse string as a number"
  | notList => "Input should be a valid list"
  | notDictionary => "Input should be a valid dictionary"
  | notInstance form => "Input should be a valid dictionary or instance of " ++ form
  | noFields => "Input should be a valid dictionary or object to extract fields from"

end Problem

/-- A problem with a given value; for a missing field the value is the object that lacks it. -/
structure Issue where
  place : List Place
  problem : Problem
  given : Json

def Issue.under (p : Place) (i : Issue) : Issue := { i with place := p :: i.place }

/-- A value that passed its checks, or the issues found. -/
inductive Checked (α : Type)
  | pass (a : α)
  | fail (issues : List Issue)

namespace Checked

variable {α β : Type}

def refuse (p : Problem) (given : Json) : Checked α := fail [⟨[], p, given⟩]

def map (f : α → β) : Checked α → Checked β
  | pass a => pass (f a)
  | fail is => fail is

/-- Apply a checked function; the issues of both sides are kept. -/
def ap : Checked (α → β) → Checked α → Checked β
  | pass f, c => c.map f
  | fail is, pass _ => fail is
  | fail is, fail js => fail (is ++ js)

instance : Functor Checked where
  map := map

instance : Seq Checked where
  seq f c := ap f (c ())

/-- The same check of a value further inside. -/
def under (p : Place) : Checked α → Checked α
  | pass a => pass a
  | fail is => fail (is.map (Issue.under p))

/-- A field that must be present. -/
def required (members : List (String × Json)) (name : String) (check : Json → Checked α) : Checked α :=
  (match (Json.object members).member? name with
    | some v => check v
    | none => refuse .missing (.object members)).under (.field name)

/-- A field with a value for when it is absent. -/
def optional (members : List (String × Json)) (name : String) (default : α)
    (check : Json → Checked α) : Checked α :=
  match (Json.object members).member? name with
  | some v => (check v).under (.field name)
  | none => pass default

/-- Check the items from an index on. -/
def items (check : Json → Checked α) : Nat → List Json → Checked (List α)
  | _, [] => pass []
  | i, v :: vs => ap (((check v).under (.index i)).map List.cons) (items check (i + 1) vs)

def list (check : Json → Checked α) : Json → Checked (List α)
  | .list vs => items check 0 vs
  | v => refuse .notList v

end Checked

end TraceGraph
