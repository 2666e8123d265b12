import TraceGraph.Text.Printable
import TraceGraph.Text.Casing.Table

/-! Upper and lower case of a whole text by the full case maps, in which a character may become
several. Lower case looks at the surroundings once: a capital sigma that ends a word becomes the
final sigma. -/

namespace TraceGraph.Text

namespace Casing

def Run.image? (r : Run) (n : Nat) : Option Nat :=
  if r.first ≤ n ∧ n ≤ r.last ∧ (n - r.first) % r.step = 0 then some (n + r.shift).toNat else none

/-- The image of one character: its expansion if it has one, else that of the run it lies on, else
itself. -/
def image (runs : List Run) (expansions : List (Nat × List Nat)) (c : Char) : List Char :=
  match expansions.find? (·.1 = c.toNat) with
  | some (_, codes) => codes.map Char.ofNat
  | none => [((runs.findSome? (·.image? c.toNat)).map Char.ofNat).getD c]

def isCased (c : Char) : Bool := inRanges casedRanges c.toNat

def isIgnorable (c : Char) : Bool := inRanges ignorableRanges c.toNat

/-- Whether the next character that casing does not look through is a cased letter. -/
def facesCased (cs : List Char) : Bool := (cs.dropWhile isIgnorable).head?.any isCased

/-- Lower case of `rest`, where `before` is what stands before it, the nearest character first. -/
def lowerFrom (before : List Char) : List Char → List Char
  | [] => []
  | c :: rest =>
    (if c = 'Σ' then [if facesCased before && !facesCased rest then 'ς' else 'σ']
      else image lowerRuns lowerExpansions c) ++ lowerFrom (c :: before) rest

end Casing

open Casing

def upper (s : String) : String :=
  String.ofList (s.toList.flatMap (image upperRuns upperExpansions))

def lower (s : String) : String := String.ofList (lowerFrom [] s.toList)

end TraceGraph.Text
