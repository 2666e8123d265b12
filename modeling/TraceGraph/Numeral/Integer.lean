import TraceGraph.Binary64
import TraceGraph.Text.Blank
import TraceGraph.Text.Digit
import TraceGraph.Text.Quoted
import TraceGraph.Numeral.Real

/-! Integers written as text: blanks around it, one sign, and decimal digits of any script with single
underscores between them. A text of more than 4300 digits is refused whatever its value. -/

namespace TraceGraph.Numeral

open Text

/-- The largest number of digits, leading zeros included, that is read as an integer. -/
def digitLimit : Nat := 4300

inductive IntegerError
  | malformed (source : List CodePoint)
  | tooLong (digits : Nat)
  deriving DecidableEq

/-- What is wrong; a long source is shown by the first 200 characters of its quoted form. -/
def IntegerError.message : IntegerError → String
  | .malformed ps =>
    "invalid literal for int() with base 10: " ++ String.ofList ((quotedPoints ps).toList.take 200)
  | .tooLong n =>
    s!"Exceeds the limit ({digitLimit} digits) for integer string conversion: value has {n} digits; " ++
      "use sys.set_int_max_str_digits() to increase the limit"

/-- Digits with single underscores between them. -/
def groupedDigits? : List Char → Option (List Nat)
  | [] => none
  | [c] => (digit? c).map ([·])
  | c :: '_' :: cs => (digit? c).bind fun d => (groupedDigits? cs).map (d :: ·)
  | c :: cs => (digit? c).bind fun d => (groupedDigits? cs).map (d :: ·)

def isDigitOrSeparator (c : Char) : Bool := c = '_' || (digit? c).isSome

/-- The integer that code points write; an unpaired surrogate has no place in one. -/
def integerOfPoints (ps : List CodePoint) : Except IntegerError Int :=
  let (negative, body) := splitSign (trimBlanks (ps.map CodePoint.shown))
  match groupedDigits? (body.takeWhile isDigitOrSeparator) with
  | none => .error (.malformed ps)
  | some ds =>
    if digitLimit < ds.length then .error (.tooLong ds.length)
    else if body.all isDigitOrSeparator then
      let n : Int := ofDigits ds
      .ok (if negative then -n else n)
    else .error (.malformed ps)

def integer (s : String) : Except IntegerError Int := integerOfPoints (codePoints s)

end TraceGraph.Numeral
