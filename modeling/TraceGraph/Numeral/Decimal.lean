/-! Integers as decimal text. Writing one may be bounded in its digits, as reading one is. -/

namespace TraceGraph.Numeral

/-- An integer has more digits than are written. -/
structure Oversize where
  limit : Nat
  deriving DecidableEq

def Oversize.message (e : Oversize) : String :=
  s!"Exceeds the limit ({e.limit} digits) for integer string conversion; " ++
    "use sys.set_int_max_str_digits() to increase the limit"

/-- The decimal text of an integer, if it has no more digits than are admitted. A sign does not count. -/
def decimal (digits : Option Nat) (n : Int) : Except Oversize String :=
  match digits with
  | none => .ok (toString n)
  | some limit =>
    if limit < (Nat.toDigits 10 n.natAbs).length then .error ⟨limit⟩ else .ok (toString n)

end TraceGraph.Numeral
