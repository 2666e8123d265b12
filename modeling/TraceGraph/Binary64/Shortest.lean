import TraceGraph.Binary64

/-! The shortest decimal that reads back as a given number. For one digit, two digits and so on, the
two decimals of so many digits that enclose the value are tried; the first grid with one that reads
back wins, of two on a grid the nearer one. The exact decimal of the value ends the search. -/

namespace TraceGraph

/-- The number `coefficient · 10 ^ exponent`. -/
structure Decimal where
  coefficient : Nat
  exponent : Int
  deriving DecidableEq

namespace Decimal

/-- Move trailing zeros of the coefficient to the exponent, at most `fuel` of them. -/
def strip : Nat → Decimal → Decimal
  | 0, d => d
  | fuel + 1, d =>
    if d.coefficient ≠ 0 ∧ d.coefficient % 10 = 0 then strip fuel ⟨d.coefficient / 10, d.exponent + 1⟩
    else d

def digits (d : Decimal) : List Char := Nat.toDigits 10 d.coefficient

/-- The number of digits before the point when the coefficient is written out. -/
def pointPosition (d : Decimal) : Int := d.digits.length + d.exponent

end Decimal

namespace Binary64

/-- The least `k` with `num / den < 10 ^ k`, for a positive fraction. -/
def decimalPosition (num den : Nat) : Int :=
  let d : Int := (num.log2 : Int) - den.log2
  let k := (d - 1) * 30103 / 100000 + 1
  if num * Nat.pow 10 (-k).toNat < den * Nat.pow 10 k.toNat then k else k + 1

/-- The decimals of `n` digits next to `num / den` that read back as the number of the given fields,
the nearer one first. -/
def candidates (exponent : Fin 2047) (fraction : Fin (Nat.pow 2 52)) (n : Nat) : List Decimal :=
  let (num, den) := magnitude exponent fraction
  let g := decimalPosition num den - n
  let num := num * Nat.pow 10 (-g).toNat
  let den := den * Nat.pow 10 g.toNat
  let low : Decimal := ⟨num / den, g⟩
  let high : Decimal := ⟨num / den + 1, g⟩
  let nearest := roundHalfEven num den
  let order := if nearest = num / den then [low, high] else [high, low]
  order.filter fun d => ofDecimal false d.coefficient d.exponent = .finite false exponent fraction

/-- The value itself as a decimal. -/
def exactDecimal (exponent fraction : Nat) : Decimal :=
  let p := scale exponent
  ⟨significand exponent fraction * Nat.pow 2 p.toNat * Nat.pow 5 (-p).toNat, -((-p).toNat : Int)⟩

/-- The shortest decimal of an absolute value. -/
def shortest (exponent : Fin 2047) (fraction : Fin (Nat.pow 2 52)) : Decimal :=
  if significand exponent fraction = 0 then ⟨0, 0⟩
  else
    let found := (List.range 17).findSome? fun n => (candidates exponent fraction (n + 1)).head?
    ((found.getD (exactDecimal exponent fraction)).strip 20)

/-- Where positional notation is used, by the number of digits before the point. -/
def positional (point : Int) : Bool := -4 < point && point ≤ 16

/-- Digits with the point after the first `point` of them, filled up with zeros; one digit stands on
each side of the point. -/
def positionalText (digits : List Char) (point : Int) : List Char :=
  if point ≤ 0 then '0' :: '.' :: (List.replicate (-point).toNat '0' ++ digits)
  else
    let whole := digits.take point.toNat
    let rest := digits.drop point.toNat
    whole ++ List.replicate (point.toNat - digits.length) '0' ++ '.' :: (if rest = [] then ['0'] else rest)

/-- A signed exponent of at least two digits. -/
def exponentText (e : Int) : List Char :=
  let ds := Nat.toDigits 10 e.natAbs
  'e' :: (if e < 0 then '-' else '+') :: (if ds.length < 2 then '0' :: ds else ds)

def scientificText (digits : List Char) (point : Int) : List Char :=
  let mantissa := match digits with
    | [] => []
    | [d] => [d]
    | d :: ds => d :: '.' :: ds
  mantissa ++ exponentText (point - 1)

/-- The shortest text of a finite number: positional from 0.0001 up to below 10 ^ 16 and then with at
least one decimal place, otherwise with an exponent. -/
def finiteText (negative : Bool) (exponent : Fin 2047) (fraction : Fin (Nat.pow 2 52)) : List Char :=
  let d := shortest exponent fraction
  let text :=
    if d.coefficient = 0 then ['0', '.', '0']
    else if positional d.pointPosition then positionalText d.digits d.pointPosition
    else scientificText d.digits d.pointPosition
  if negative then '-' :: text else text

def text : Binary64 → String
  | .finite negative e f => String.ofList (finiteText negative e f)
  | .infinite false => "inf"
  | .infinite true => "-inf"
  | .nan => "nan"

end Binary64

end TraceGraph
