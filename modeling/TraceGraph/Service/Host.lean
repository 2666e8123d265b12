import TraceGraph.Json.Reader
import TraceGraph.Path

/-! Hosts of URLs. A host is a name or a numeric address, and what looks like an address must be one: four
numbers below 256 with points between them, or in brackets eight groups of up to four hexadecimal digits
with colons between them. There two colons together stand for one or more groups of zeros, and the last
two groups may be written as an address of four numbers. -/

namespace TraceGraph.Service

/-- The texts between the occurrences of a character. -/
def splitAt (sep : Char) : List Char → List (List Char)
  | [] => [[]]
  | c :: cs =>
    if c = sep then [] :: splitAt sep cs
    else match splitAt sep cs with
      | s :: ss => (c :: s) :: ss
      | [] => [[c]]

namespace Host

/-- Whether a text is `runs + 1` runs of digits with any one character between them; `inside` says that
the first run has begun. -/
def hasDigitRuns (runs : Nat) (inside : Bool) : List Char → Bool
  | [] => inside && runs = 0
  | c :: cs =>
    (c.isDigit && hasDigitRuns runs true cs) ||
      (inside && match runs with
        | 0 => false
        | n + 1 => hasDigitRuns n false cs)

/-- A decimal number below 256 without leading zeros. -/
def isOctet (cs : List Char) : Bool :=
  cs ≠ [] && cs.all Char.isDigit && cs.length ≤ 3 && (cs = ['0'] || cs.head? ≠ some '0') &&
    Text.ofDigits (Numeral.digitValues cs) < 256

def isFourNumbers (cs : List Char) : Bool :=
  (splitAt '.' cs).length = 4 && (splitAt '.' cs).all isOctet

def isGroup (cs : List Char) : Bool :=
  cs ≠ [] && cs.length ≤ 4 && cs.all fun c => (Json.hexValue? c).isSome

/-- How many groups a list of texts makes up, the last of which may be four numbers. -/
def countGroups? : List (List Char) → Option Nat
  | [] => some 0
  | [s] => if isGroup s then some 1 else if isFourNumbers s then some 2 else none
  | s :: ss => if isGroup s then (countGroups? ss).map (· + 1) else none

/-- The text before the first two colons in a row, and the text after them. -/
def splitGap : List Char → Option (List Char × List Char)
  | ':' :: ':' :: cs => some ([], cs)
  | c :: cs => (splitGap cs).map fun r => (c :: r.1, r.2)
  | [] => none

def groups (cs : List Char) : List (List Char) := if cs = [] then [] else splitAt ':' cs

def isEightGroups (cs : List Char) : Bool :=
  match splitGap cs with
  | none => countGroups? (groups cs) = some 8
  | some (before, after) =>
    (groups before).all isGroup &&
      ((countGroups? (groups after)).any fun n => (groups before).length + n ≤ 7)

/-- An address in brackets may name its zone after a percent sign. -/
def isBracketed (cs : List Char) : Bool :=
  match splitAt '%' cs with
  | [address] => isEightGroups address
  | [address, zone] => zone ≠ [] && isEightGroups address
  | _ => false

/-- Whether a text can stand as a host. -/
def isValid (cs : List Char) : Bool :=
  if hasDigitRuns 3 false cs then isFourNumbers cs
  else if 2 ≤ cs.length ∧ cs.head? = some '[' ∧ cs.getLast? = some ']' then isBracketed cs.tail.dropLast
  else true

example : isValid "127.0.0.1".toList ∧ ¬ isValid "127.0.0.256".toList ∧ isValid "[::1]".toList ∧
    isValid "[1:2:3:4:5:6:1.2.3.4]".toList ∧ ¬ isValid "[1::2::3]".toList := by decide +kernel

end Host

end TraceGraph.Service
