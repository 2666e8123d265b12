import TraceGraph.Json
import TraceGraph.Numeral.Decimal
import TraceGraph.Numeral.Real
import TraceGraph.Text.Quoted

/-! Conversions in log messages. A conversion begins with a percent sign, may name a key, flags, a width
and a precision, and ends with a letter that says how its argument is written. The arguments are a
sequence, taken one after the other, or one object whose members are taken by name. -/

namespace TraceGraph.Log.Message

inductive Error
  | incomplete
  | incompleteKey
  | noMapping
  | missingKey (key : String)
  | notEnough
  | leftOver
  | starNotInteger
  | widthTooBig
  | precisionTooBig
  /-- A precision that digits cannot have. -/
  | precisionTooLarge
  /-- A width or precision that no text can have. -/
  | outOfMemory
  | starTooBig (type : String)
  | notReal (letter : Char) (given : Json)
  | notInteger (letter : Char) (given : Json)
  | notFloat (given : Json)
  | tooLargeForFloat
  | infinite
  | nan
  | notCharacter
  | noSuchCharacter
  | oversize (e : Numeral.Oversize)
  | unsupported (letter : Char) (index : Nat)

/-- A number in lower-case hexadecimal. -/
def hexText (n : Nat) : String := String.ofList (Nat.toDigits 16 n)

def Error.message : Error → String
  | incomplete => "incomplete format"
  | incompleteKey => "incomplete format key"
  | noMapping => "format requires a mapping"
  | missingKey key => Text.quoted key
  | notEnough => "not enough arguments for format string"
  | leftOver => "not all arguments converted during string formatting"
  | starNotInteger => "* wants int"
  | widthTooBig => "width too big"
  | precisionTooBig => "precision too big"
  | precisionTooLarge => "precision too large"
  | outOfMemory => ""
  | starTooBig type => s!"Python int too large to convert to C {type}"
  | notReal c v => s!"%{c} format: a real number is required, not {v.typeName}"
  | notInteger c v => s!"%{c} format: an integer is required, not {v.typeName}"
  | notFloat v => s!"must be real number, not {v.typeName}"
  | tooLargeForFloat => "int too large to convert to float"
  | infinite => "cannot convert float infinity to integer"
  | nan => "cannot convert float NaN to integer"
  | notCharacter => "%c requires int or char"
  | noSuchCharacter => "%c arg not in range(0x110000)"
  | oversize e => e.message
  | unsupported c i =>
    let shown := if 31 ≤ c.toNat ∧ c.toNat < 127 then c else '?'
    let code := hexText c.toNat
    s!"unsupported format character '{shown}' (0x{code}) at index {i}"

/-- What the conversions draw from: the members that can be named, if there are any, and the arguments
still to come. -/
structure Supply where
  members : Option (List (String × Json))
  rest : List Json

/-- One object that is not empty is taken by name; else the arguments are a sequence. -/
def Supply.of : List Json → Supply
  | [.object []] => ⟨none, [.object []]⟩
  | [.object ms] => ⟨some ms, [.object ms]⟩
  | args => ⟨none, args⟩

def Supply.next (s : Supply) : Except Error (Json × Supply) :=
  match s.rest with
  | v :: rest => .ok (v, { s with rest })
  | [] => .error .notEnough

structure Flags where
  left : Bool
  sign : Bool
  blank : Bool
  full : Bool
  zero : Bool

/-- A conversion as far as it has been read. -/
structure Conversion where
  flags : Flags
  width : Option Nat
  precision : Option Nat
  letter : Char

/-- Read a key up to its closing parenthesis; parentheses inside it must balance. -/
def readKey : Nat → List Char → Option (List Char × List Char)
  | _, [] => none
  | depth, c :: cs =>
    if c = ')' then
      match depth with
      | 0 => some ([], cs)
      | d + 1 => (readKey d cs).map fun r => (c :: r.1, r.2)
    else (readKey (if c = '(' then depth + 1 else depth) cs).map fun r => (c :: r.1, r.2)

/-- A named argument is the only one that the conversion draws from. -/
def takeKey (s : Supply) : List Char → Except Error (Supply × List Char)
  | '(' :: cs =>
    match s.members with
    | none => .error .noMapping
    | some ms =>
      match readKey 0 cs with
      | none => .error .incompleteKey
      | some (key, rest) =>
        match (Json.object ms).member? (String.ofList key) with
        | some v => .ok ({ s with rest := [v] }, rest)
        | none => .error (.missingKey (String.ofList key))
  | cs => .ok (s, cs)

def readFlags (f : Flags) : List Char → Flags × List Char
  | '-' :: cs => readFlags { f with left := true } cs
  | '+' :: cs => readFlags { f with sign := true } cs
  | ' ' :: cs => readFlags { f with blank := true } cs
  | '#' :: cs => readFlags { f with full := true } cs
  | '0' :: cs => readFlags { f with zero := true } cs
  | cs => (f, cs)

/-- The number that a run of digits writes, if there is a run. -/
def readNumber (cs : List Char) : Option Nat × List Char :=
  let ds := cs.takeWhile Char.isDigit
  if ds = [] then (none, cs)
  else (some (Text.ofDigits (Numeral.digitValues ds)), cs.dropWhile Char.isDigit)

def starInteger (v : Json) : Except Error Int :=
  match v with
  | .int n => .ok n
  | .bool b => .ok (if b then 1 else 0)
  | _ => .error .starNotInteger

/-- A width as digits or from an argument; a negative argument asks for alignment to the left. The least
argument has no opposite and is no width. -/
def readWidth (s : Supply) (f : Flags) :
    List Char → Except Error (Supply × Flags × Option Nat × List Char)
  | '*' :: cs => do
    let (v, s) ← s.next
    let n ← starInteger v
    if n < -Int.pow 2 63 ∨ Int.pow 2 63 ≤ n then throw (.starTooBig "ssize_t")
    let f := if n < 0 then { f with left := true } else f
    return (s, f, if n = -Int.pow 2 63 then none else some n.natAbs, cs)
  | cs => do
    let (n, cs) := readNumber cs
    if Nat.pow 2 63 ≤ n.getD 0 then throw .widthTooBig
    return (s, f, n, cs)

/-- A precision after a point, as digits or from an argument; without either it is 0. -/
def readPrecision (s : Supply) : List Char → Except Error (Supply × Option Nat × List Char)
  | '.' :: '*' :: cs => do
    let (v, s) ← s.next
    let n ← starInteger v
    if n < -Int.pow 2 31 ∨ Int.pow 2 31 ≤ n then throw (.starTooBig "int")
    return (s, some n.toNat, cs)
  | '.' :: cs => do
    let (n, cs) := readNumber cs
    if Nat.pow 2 31 ≤ n.getD 0 then throw .precisionTooBig
    return (s, some (n.getD 0), cs)
  | cs => .ok (s, none, cs)

/-- A size mark before the letter means nothing. -/
def skipSizeMark : List Char → List Char
  | c :: cs => if c = 'h' ∨ c = 'l' ∨ c = 'L' then cs else c :: cs
  | [] => []

def readConversion (s : Supply) (cs : List Char) :
    Except Error (Supply × Conversion × List Char) := do
  let (s, cs) ← takeKey s cs
  let (flags, cs) := readFlags ⟨false, false, false, false, false⟩ cs
  let (s, flags, width, cs) ← readWidth s flags cs
  let (s, precision, cs) ← readPrecision s cs
  match skipSizeMark cs with
  | [] => throw .incomplete
  | letter :: cs => return (s, ⟨flags, width, precision, letter⟩, cs)

end TraceGraph.Log.Message
