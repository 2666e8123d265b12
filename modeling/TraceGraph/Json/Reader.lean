import TraceGraph.Json
import TraceGraph.Numeral.Integer
import TraceGraph.Table

/-! Reading JSON text. The words for infinities and NaN are read as floats, the last of several members
with one key counts, and a key shows an unpaired surrogate as the replacement character. The nesting of
lists and objects may be bounded, and so may the digits of an integer, which then may have as many as
integer texts may have elsewhere. -/

namespace TraceGraph.Json

inductive ReadError
  | malformed
  | integer (e : Numeral.IntegerError)
  | deepList
  | deepObject

def isSpace (c : Char) : Bool := c = ' ' || c = '\t' || c = '\n' || c = '\r'

def skipSpace (cs : List Char) : List Char := cs.dropWhile isSpace

def hexValue? (c : Char) : Option Nat :=
  if '0' ≤ c ∧ c ≤ '9' then some (c.toNat - '0'.toNat)
  else if 'a' ≤ c ∧ c ≤ 'f' then some (c.toNat - 'a'.toNat + 10)
  else if 'A' ≤ c ∧ c ≤ 'F' then some (c.toNat - 'A'.toNat + 10)
  else none

def hexUnit? (a b c d : Char) : Option Nat := do
  let a ← hexValue? a
  let b ← hexValue? b
  let c ← hexValue? c
  let d ← hexValue? d
  pure (((a * 16 + b) * 16 + c) * 16 + d)

/-- The character of an escape by a letter. -/
def letterEscape? (c : Char) : Option Char :=
  match c with
  | '"' => some '"'
  | '\\' => some '\\'
  | '/' => some '/'
  | 'b' => some '\x08'
  | 'f' => some '\x0c'
  | 'n' => some '\n'
  | 'r' => some '\r'
  | 't' => some '\t'
  | _ => none

/-- The codes of a text up to its closing quote, escapes resolved but surrogates left apart, and what
follows the quote. -/
def readCodes : List Char → Option (List Nat × List Char)
  | [] => none
  | '"' :: cs => some ([], cs)
  | '\\' :: 'u' :: a :: b :: c :: d :: cs =>
    (hexUnit? a b c d).bind fun n => (readCodes cs).map fun r => (n :: r.1, r.2)
  | '\\' :: c :: cs =>
    (letterEscape? c).bind fun e => (readCodes cs).map fun r => (e.toNat :: r.1, r.2)
  | c :: cs =>
    if c.toNat < 0x20 ∨ c = '\\' then none else (readCodes cs).map fun r => (c.toNat :: r.1, r.2)

/-- Read a text whose opening quote has been read. -/
def readText (cs : List Char) : Option (List Text.CodePoint × List Char) :=
  (readCodes cs).map fun r => (Text.CodePoint.join (r.1.map Text.CodePoint.ofCode), r.2)

/-- Split off the digits of an integer part: a lone zero, or digits that do not begin with one. -/
def wholePart? : List Char → Option (List Char × List Char)
  | '0' :: cs => some (['0'], cs)
  | c :: cs =>
    if c.isDigit then some (c :: cs.takeWhile Char.isDigit, cs.dropWhile Char.isDigit) else none
  | [] => none

/-- Decimal places after a point, if there are any; else nothing is split off. -/
def placesPart : List Char → List Char × List Char
  | '.' :: cs =>
    if (cs.takeWhile Char.isDigit) = [] then ([], '.' :: cs)
    else (cs.takeWhile Char.isDigit, cs.dropWhile Char.isDigit)
  | cs => ([], cs)

/-- A mark with an integer after it; else nothing is split off. -/
def exponentPart (cs : List Char) : Option Int × List Char :=
  match cs with
  | c :: r =>
    if c = 'e' ∨ c = 'E' then
      let (negative, body) := Numeral.splitSign r
      if body.takeWhile Char.isDigit = [] then (none, cs)
      else
        let n : Int := Text.ofDigits (Numeral.digitValues (body.takeWhile Char.isDigit))
        (some (if negative then -n else n), body.dropWhile Char.isDigit)
    else (none, cs)
  | [] => (none, cs)

/-- A number: an integer unless it has decimal places or an exponent. -/
def readNumber (digits : Option Nat) (negative : Bool) (cs : List Char) :
    Except ReadError (Json × List Char) :=
  match wholePart? cs with
  | none => .error .malformed
  | some (whole, r) =>
    let (places, r) := placesPart r
    let (e, r) := exponentPart r
    if places = [] ∧ e = none then
      if digits.any (· < whole.length) then .error (.integer (.tooLong whole.length))
      else
        let n : Int := Text.ofDigits (Numeral.digitValues whole)
        .ok (.int (if negative then -n else n), r)
    else
      let n := Text.ofDigits (Numeral.digitValues (whole ++ places))
      .ok (.float (Binary64.ofDecimal negative n (e.getD 0 - places.length)), r)

/-- The members of an object as read: a later member takes the place of an earlier one with its key. -/
def ofMembers (ms : List (String × Json)) : Json := .object (Table.ofList ms).entries

mutual

/-- Read one value, given the input at its first character. Each level and each further item takes one
unit of fuel. -/
def readValue (limits : Limits) : Nat → List Char → Except ReadError (Json × List Char)
  | 0, _ => .error .malformed
  | fuel + 1, cs =>
    match cs with
    | '"' :: r =>
      match readText r with
      | some (ps, r) => .ok (ofCodePoints ps, r)
      | none => .error .malformed
    | '[' :: r =>
      if limits.levels = some 0 then .error .deepList
      else match skipSpace r with
        | ']' :: r => .ok (.list [], r)
        | r => (readItems limits.inner fuel r).map fun (vs, r) => (.list vs, r)
    | '\x7b' :: r =>
      if limits.levels = some 0 then .error .deepObject
      else match skipSpace r with
        | '\x7d' :: r => .ok (.object [], r)
        | r => (readMembers limits.inner fuel r).map fun (ms, r) => (ofMembers ms, r)
    | 'n' :: 'u' :: 'l' :: 'l' :: r => .ok (.null, r)
    | 't' :: 'r' :: 'u' :: 'e' :: r => .ok (.bool true, r)
    | 'f' :: 'a' :: 'l' :: 's' :: 'e' :: r => .ok (.bool false, r)
    | 'N' :: 'a' :: 'N' :: r => .ok (.float .nan, r)
    | 'I' :: 'n' :: 'f' :: 'i' :: 'n' :: 'i' :: 't' :: 'y' :: r => .ok (.float (.infinite false), r)
    | '-' :: 'I' :: 'n' :: 'f' :: 'i' :: 'n' :: 'i' :: 't' :: 'y' :: r =>
      .ok (.float (.infinite true), r)
    | '-' :: r => readNumber limits.digits true r
    | r => readNumber limits.digits false r

/-- Read the items of a list up to its bracket, given the input at the first item. -/
def readItems (limits : Limits) : Nat → List Char → Except ReadError (List Json × List Char)
  | 0, _ => .error .malformed
  | fuel + 1, cs => do
    let (v, r) ← readValue limits fuel cs
    match skipSpace r with
    | ']' :: r => pure ([v], r)
    | ',' :: r => do
      let (vs, r) ← readItems limits fuel (skipSpace r)
      pure (v :: vs, r)
    | _ => throw .malformed

/-- Read the members of an object up to its brace, given the input at the first key. -/
def readMembers (limits : Limits) :
    Nat → List Char → Except ReadError (List (String × Json) × List Char)
  | 0, _ => .error .malformed
  | fuel + 1, cs =>
    match cs with
    | '"' :: r =>
      match readText r with
      | none => .error .malformed
      | some (k, r) =>
        match skipSpace r with
        | ':' :: r => do
          let (v, r) ← readValue limits fuel (skipSpace r)
          match skipSpace r with
          | '\x7d' :: r => pure ([(Text.CodePoint.text k, v)], r)
          | ',' :: r => do
            let (ms, r) ← readMembers limits fuel (skipSpace r)
            pure ((Text.CodePoint.text k, v) :: ms, r)
          | _ => throw .malformed
        | _ => .error .malformed
    | _ => .error .malformed

end

/-- Read a whole text as one value within bounds. -/
def readBounded (limits : Limits) (s : String) : Except ReadError Json :=
  let cs := s.toList
  match readValue limits (2 * cs.length + 2) (skipSpace cs) with
  | .error e => .error e
  | .ok (v, rest) => if skipSpace rest = [] then .ok v else .error .malformed

/-- Read a whole text as one value of bounded nesting. -/
def readWithin (levels : Option Nat) (s : String) : Except ReadError Json :=
  readBounded ⟨levels, some Numeral.digitLimit⟩ s

/-- Read a whole text as one value. -/
def read (s : String) : Except ReadError Json := readWithin none s

end TraceGraph.Json
