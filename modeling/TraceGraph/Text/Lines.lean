/-! The lines of a text. Besides line feed and carriage return the characters that separate lines,
paragraphs, pages and records end a line. -/

namespace TraceGraph.Text

def isLineBreak (c : Char) : Bool :=
  let n := c.toNat
  (0xa ≤ n && n ≤ 0xd) || (0x1c ≤ n && n ≤ 0x1e) || n = 0x85 || n = 0x2028 || n = 0x2029

/-- The lines without their breaks. A carriage return and a line feed after it are one break, and a break
at the end begins no further line. -/
def lines : List Char → List (List Char)
  | [] => []
  | '\r' :: '\n' :: cs => [] :: lines cs
  | c :: cs =>
    if isLineBreak c then [] :: lines cs
    else match lines cs with
      | [] => [[c]]
      | l :: ls => (c :: l) :: ls

example : lines "a\r\nb\n\nc\n".toList = [['a'], ['b'], [], ['c']] := by decide

end TraceGraph.Text
