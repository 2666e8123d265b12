import TraceGraph.Numeral.Integer
import TraceGraph.Numeral.Real

/-! Numbers as texts in a payload, in ASCII digits: blanks around a number are dropped, and so are single
underscores inside it. An integer may have leading zeros, a plus sign and decimal places of zero, and a
minus may stand after leading zeros too. -/

namespace TraceGraph.Numeral

open Text

inductive LooseError
  | unreadable
  | oversized
  deriving DecidableEq

/-- An integer in its plain form: an optional minus and digits that do not begin with a zero, unless it
is the only one. A sign and digits beyond the limit are refused for that, whatever follows them. -/
def plainInteger (cs : List Char) : Except LooseError Int :=
  let (sign, body) := match cs with
    | '-' :: body => (['-'], body)
    | body => ([], body)
  let ds := body.takeWhile Char.isDigit
  if ds = [] ∨ (ds.head? = some '0' ∧ ds ≠ ['0']) then .error .unreadable
  else if digitLimit < (sign ++ ds).length then .error .oversized
  else if ds ≠ body then .error .unreadable
  else
    let n : Int := ofDigits (digitValues ds)
    .ok (if sign = [] then n else -n)

/-- Drop zeros, and underscores among them, in front of a number that begins with a zero. A zero before
a point or at the end stays. -/
def dropLeadingZeros (last : Char) : List Char → Option (List Char)
  | [] => some [last]
  | '.' :: cs => some (last :: '.' :: cs)
  | c :: cs =>
    if c = '0' ∨ c = '_' then dropLeadingZeros c cs
    else if c.isDigit ∨ c = '-' then some (c :: cs)
    else none

def withoutLeadingZeros? : List Char → Option (List Char)
  | '0' :: cs => dropLeadingZeros '0' cs
  | c :: cs => if c.isDigit then some (c :: cs) else none
  | [] => none

/-- Drop decimal places that are all zero, with their point; a point without places stays. -/
def withoutZeroPlaces (cs : List Char) : List Char :=
  match cs.dropWhile (· ≠ '.') with
  | '.' :: places =>
    if places ≠ [] ∧ places.all (· = '0') then cs.takeWhile (· ≠ '.') else cs
  | _ => cs

/-- Whether two underscores stand side by side. -/
def doubleSeparator : List Char → Bool
  | '_' :: '_' :: _ => true
  | _ :: cs => doubleSeparator cs
  | [] => false

/-- Drop the underscores, unless one stands at an end or beside another. -/
def withoutSeparators? (cs : List Char) : Option (List Char) :=
  if cs.head? = some '_' ∨ cs.getLast? = some '_' ∨ doubleSeparator cs then none
  else some (cs.filter (· ≠ '_'))

/-- The plain form of what follows the sign. -/
def plainBody? (cs : List Char) : Option (List Char) :=
  (withoutLeadingZeros? cs).bind fun cs => withoutSeparators? (withoutZeroPlaces cs)

/-- The plain form of a number in the lenient one. -/
def plainForm? (cs : List Char) : Option (List Char) :=
  match trimBlanks cs with
  | '+' :: cs => plainBody? cs
  | '-' :: cs => (plainBody? cs).map ('-' :: ·)
  | cs => plainBody? cs

/-- Only a text that is oversized as it stands is refused for its size. -/
def looseInteger (s : String) : Except LooseError Int :=
  match plainInteger s.toList with
  | .ok n => .ok n
  | .error .oversized => .error .oversized
  | .error .unreadable =>
    match ((plainForm? s.toList).map plainInteger).bind Except.toOption with
    | some n => .ok n
    | none => .error .unreadable

def looseReal? (s : String) : Option Binary64 :=
  plainReal? (trimBlanks s.toList) <|> (withoutSeparators? s.toList).bind plainReal?

end TraceGraph.Numeral
