import TraceGraph.Json

/-! Numbers as they are given: an integer of any size, a binary floating-point number, or a truth value,
which counts as 1 or 0. Comparison with an integer is exact. -/

namespace TraceGraph

inductive Number
  | whole (n : Int)
  | real (x : Binary64)
  | flag (b : Bool)
  deriving DecidableEq

namespace Number

def ltInt : Number → Int → Bool
  | whole n, k => n < k
  | real x, k => x.ltInt k
  | flag b, k => (if b then 1 else 0) < k

def gtInt : Number → Int → Bool
  | whole n, k => k < n
  | real x, k => x.gtInt k
  | flag b, k => k < (if b then 1 else 0)

/-- A value that can be compared with numbers. -/
def ofJson? : Json → Option Number
  | .int n => some (whole n)
  | .float x => some (real x)
  | .bool b => some (flag b)
  | _ => none

def toJson : Number → Json
  | whole n => .int n
  | real x => .float x
  | flag b => .bool b

theorem ofJson?_toJson (n : Number) : ofJson? n.toJson = some n := by cases n <;> rfl

end Number

end TraceGraph
