/-! Binary floating-point numbers of 64 bits, by their fields and with exact arithmetic. A finite
number has a sign, an exponent field and a fraction field, so every number has one representation;
its value is the ratio of two integers. Rounding takes the nearest number, of two equally near ones
the one with even fraction, and overflows to infinity. -/

namespace TraceGraph

inductive Binary64
  | finite (negative : Bool) (exponent : Fin 2047) (fraction : Fin (Nat.pow 2 52))
  | infinite (negative : Bool)
  | nan
  deriving DecidableEq

namespace Binary64

def zero (negative : Bool) : Binary64 := .finite negative 0 0

instance : Inhabited Binary64 := ⟨zero false⟩

/-- The integer that scaled by a power of two is the absolute value. -/
def significand (exponent fraction : Nat) : Nat :=
  if exponent = 0 then fraction else Nat.pow 2 52 + fraction

/-- The power of two that the significand is scaled by. -/
def scale (exponent : Nat) : Int := (max exponent 1 : Nat) - 1075

/-- Numerator and denominator of the absolute value. -/
def magnitude (exponent fraction : Nat) : Nat × Nat :=
  let p := scale exponent
  (significand exponent fraction * Nat.pow 2 p.toNat, Nat.pow 2 (-p).toNat)

/-- The exact value as a fraction; none unless the number is finite. -/
def ratio? : Binary64 → Option (Int × Nat)
  | .finite negative e f =>
    let (n, d) := magnitude e f
    some (if negative then -(n : Int) else n, d)
  | _ => none

/-- A quotient rounded to the nearest integer, a half to the even neighbour. -/
def roundHalfEven (num den : Nat) : Nat :=
  let q := num / den
  let r := num % den
  if den < 2 * r ∨ (den = 2 * r ∧ q % 2 = 1) then q + 1 else q

/-- The number whose exponent and fraction fields, read as one integer, are `bits`. -/
def pack (negative : Bool) (bits : Nat) : Binary64 :=
  if h : bits / Nat.pow 2 52 < 2047 then
    .finite negative ⟨bits / Nat.pow 2 52, h⟩ ⟨bits % Nat.pow 2 52, Nat.mod_lt _ (by decide)⟩
  else .infinite negative

/-- The number nearest to `num / den`. -/
def ofRatio (negative : Bool) (num den : Nat) : Binary64 :=
  if num = 0 then zero negative
  else
    let k : Int := (num.log2 : Int) - den.log2
    let top := if den * Nat.pow 2 k.toNat ≤ num * Nat.pow 2 (-k).toNat then k else k - 1
    let e := max (top - 52) (-1074)
    let q := roundHalfEven (num * Nat.pow 2 (-e).toNat) (den * Nat.pow 2 e.toNat)
    pack negative ((e + 1074).toNat * Nat.pow 2 52 + q)

/-- The number nearest to `coefficient · 10 ^ exponent`. The two outer cases lie beyond the range of
finite numbers and below half the least one, whatever the coefficient's digits. -/
def ofDecimal (negative : Bool) (coefficient : Nat) (exponent : Int) : Binary64 :=
  if coefficient = 0 then zero negative
  else if 310 < exponent then .infinite negative
  else if exponent + (coefficient.log2 + 1) / 3 + 1 < -330 then zero negative
  else ofRatio negative (coefficient * Nat.pow 10 exponent.toNat) (Nat.pow 10 (-exponent).toNat)

def ofInt (n : Int) : Binary64 := ofRatio (n < 0) n.natAbs 1

def isFinite : Binary64 → Bool
  | .finite _ _ _ => true
  | _ => false

/-- Comparison with an integer, exact; NaN is neither below nor above. -/
def ltInt (x : Binary64) (k : Int) : Bool :=
  match x with
  | .nan => false
  | .infinite negative => negative
  | .finite negative e f =>
    let (n, d) := magnitude e f
    (if negative then -(n : Int) else n) < k * d

def gtInt (x : Binary64) (k : Int) : Bool :=
  match x with
  | .nan => false
  | .infinite negative => !negative
  | .finite negative e f =>
    let (n, d) := magnitude e f
    k * d < (if negative then -(n : Int) else n)

/-- The integer part, toward zero; none unless the number is finite. -/
def truncate? (x : Binary64) : Option Int := x.ratio?.map fun r => r.1.tdiv r.2

/-- The value as an integer, if it is one. -/
def toInt? (x : Binary64) : Option Int :=
  x.ratio?.bind fun r => if r.1 % r.2 = 0 then some (r.1 / r.2) else none

example : ofDecimal false 5 (-324) = .finite false 0 1 := by decide +kernel

example : ofDecimal true 17976931348623157 292 = .finite true 2046 4503599627370495 := by decide +kernel

example : (ofDecimal false 15 (-1)).truncate? = some 1 ∧ (ofInt (-3)).toInt? = some (-3) := by
  decide +kernel

end Binary64

end TraceGraph
