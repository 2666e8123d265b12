import TraceGraph.Binary64
import TraceGraph.Text.Blank
import TraceGraph.Text.Digit

/-! Real numbers written as text: decimal digits with an optional point and exponent, or one of the
words for infinity and NaN in any case, each with an optional sign. The plain form has neither blanks
nor separators. The lenient form allows blanks around it, digits of any script, and a single
underscore between two digits. -/

namespace TraceGraph.Numeral

open Text

/-- Split off a leading sign; true for minus. -/
def splitSign : List Char → Bool × List Char
  | '-' :: cs => (true, cs)
  | '+' :: cs => (false, cs)
  | cs => (false, cs)

def digitValues (cs : List Char) : List Nat := cs.filterMap asciiDigit?

/-- Digits alone, with an optional sign. -/
def exponent? (cs : List Char) : Option Int :=
  let (negative, ds) := splitSign cs
  if ds ≠ [] ∧ ds.all Char.isDigit then
    let n : Int := ofDigits (digitValues ds)
    some (if negative then -n else n)
  else none

/-- The exponent part after the digits: nothing, or a mark and an integer. -/
def exponentPart? : List Char → Option Int
  | [] => some 0
  | c :: cs => if c = 'e' ∨ c = 'E' then exponent? cs else none

def unsigned? (negative : Bool) (cs : List Char) : Option Binary64 :=
  let whole := cs.takeWhile Char.isDigit
  let rest := cs.dropWhile Char.isDigit
  let (places, rest) := match rest with
    | '.' :: r => (r.takeWhile Char.isDigit, r.dropWhile Char.isDigit)
    | r => ([], r)
  if whole = [] ∧ places = [] then none
  else (exponentPart? rest).map fun e =>
    Binary64.ofDecimal negative (ofDigits (digitValues (whole ++ places))) (e - places.length)

/-- The plain form. -/
def plainReal? (cs : List Char) : Option Binary64 :=
  let (negative, body) := splitSign cs
  let word := body.map Char.toLower
  if word = ['i', 'n', 'f'] ∨ word = ['i', 'n', 'f', 'i', 'n', 'i', 't', 'y'] then
    some (.infinite negative)
  else if word = ['n', 'a', 'n'] then some .nan
  else unsigned? negative body

/-- Drop the underscores if each stands between two digits. -/
def dropSeparators? : List Char → Option (List Char)
  | [] => some []
  | '_' :: _ => none
  | c :: '_' :: d :: cs =>
    if c.isDigit ∧ d.isDigit then (dropSeparators? (d :: cs)).map (c :: ·) else none
  | c :: cs => (dropSeparators? cs).map (c :: ·)

/-- Write a decimal digit of any script as the ASCII digit of its value. -/
def asciiForm (c : Char) : Char := ((digit? c).map fun d => Char.ofNat ('0'.toNat + d)).getD c

/-- The lenient form. -/
def real? (s : String) : Option Binary64 :=
  (dropSeparators? ((trimBlanks s.toList).map asciiForm)).bind plainReal?

end TraceGraph.Numeral
