import TraceGraph.Binary64.Shortest

/-! Numbers with a given number of decimal places or significant digits, rounded exactly, a half to the
even neighbour. -/

namespace TraceGraph.Binary64

/-- Digits of `n` with zeros in front, at least `width` of them. -/
def padded (width n : Nat) : List Char :=
  let ds := Nat.toDigits 10 n
  List.replicate (width - ds.length) '0' ++ ds

/-- Put a point before the last `places` digits; with none after it the point is left out unless it is
wanted. -/
def withPlaces (places n : Nat) (point : Bool) : List Char :=
  let ds := padded (places + 1) n
  let whole := ds.take (ds.length - places)
  if places = 0 then (if point then whole ++ ['.'] else whole)
  else whole ++ '.' :: ds.drop (ds.length - places)

def fixedText (num den places : Nat) (point : Bool) : List Char :=
  withPlaces places (roundHalfEven (num * Nat.pow 10 places) den) point

/-- A fraction with `places + 1` significant digits: the digits as a number, and the exponent of the
first one. -/
def significant (num den places : Nat) : Nat × Int :=
  if num = 0 then (0, 0)
  else
    let k := decimalPosition num den
    let shift := (places : Int) + 1 - k
    let n := roundHalfEven (num * Nat.pow 10 shift.toNat) (den * Nat.pow 10 (-shift).toNat)
    if n = Nat.pow 10 (places + 1) then (n / 10, k) else (n, k - 1)

def dropZeros (cs : List Char) : List Char :=
  let short := (cs.reverse.dropWhile (· = '0')).reverse
  if short.getLast? = some '.' then short.dropLast else short

/-- Drop zeros at the end of decimal places. -/
def dropZeroPlaces (cs : List Char) : List Char := if '.' ∈ cs then dropZeros cs else cs

def scientificDigits (num den places : Nat) (point zeros : Bool) : List Char :=
  let (n, e) := significant num den places
  let mantissa := withPlaces places n point
  (if zeros then mantissa else dropZeroPlaces mantissa) ++ exponentText e

/-- With `digits` significant digits, and an exponent only where it is below -4 or the digits do not
reach the point. -/
def generalText (num den digits : Nat) (full : Bool) : List Char :=
  let digits := max digits 1
  let (_, e) := significant num den (digits - 1)
  if e < -4 ∨ digits ≤ e then scientificDigits num den (digits - 1) full full
  else
    let text := fixedText num den ((digits : Int) - 1 - e).toNat full
    if full then text else dropZeroPlaces text

/-- The ways to write a number with a given precision. -/
inductive Style
  | fixed
  | scientific
  | general

/-- The text of a number; `full` keeps the point and all zeros where they could be left out. -/
def format (style : Style) (precision : Nat) (full : Bool) : Binary64 → List Char
  | .nan => ['n', 'a', 'n']
  | .infinite negative => (if negative then ['-'] else []) ++ ['i', 'n', 'f']
  | .finite negative e f =>
    let (num, den) := magnitude e f
    (if negative then ['-'] else []) ++ match style with
      | .fixed => fixedText num den precision full
      | .scientific => scientificDigits num den precision full true
      | .general => generalText num den precision full

end TraceGraph.Binary64
