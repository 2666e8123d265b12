import TraceGraph.Text.CodePoint
import TraceGraph.Text.Printable

/-! A text in quotes as error messages and value listings show it: in single quotes, or in double
quotes if it holds a single quote and no double one. The quote in use and the backslash are escaped,
tab and line ends have their short escapes, and any other character that is not printable is written
by its code in hexadecimal, as is half of a surrogate pair. -/

namespace TraceGraph.Text

def hexDigit (n : Nat) : Char := "0123456789abcdef".toList.getD n '0'

/-- The lowest `width` hexadecimal digits of a number, the highest first. -/
def hex : Nat → Nat → List Char
  | 0, _ => []
  | width + 1, n => hex width (n / 16) ++ [hexDigit (n % 16)]

/-- The escape of a character by its code, as short as the code admits. -/
def codeEscape (c : Char) : List Char :=
  if c.toNat < 0x100 then '\\' :: 'x' :: hex 2 c.toNat
  else if c.toNat < 0x10000 then '\\' :: 'u' :: hex 4 c.toNat
  else '\\' :: 'U' :: hex 8 c.toNat

def quoteChar (quote c : Char) : List Char :=
  if c = quote ∨ c = '\\' then ['\\', c]
  else if c = '\t' then ['\\', 't']
  else if c = '\n' then ['\\', 'n']
  else if c = '\r' then ['\\', 'r']
  else if isPrintable c then [c]
  else codeEscape c

def quotePoint (quote : Char) : CodePoint → List Char
  | .char c => quoteChar quote c
  | p@(.half _) => '\\' :: 'u' :: hex 4 p.code

def quotedPoints (ps : List CodePoint) : String :=
  let quote := if .char '\'' ∈ ps ∧ .char '"' ∉ ps then '"' else '\''
  String.ofList (quote :: (ps.flatMap (quotePoint quote) ++ [quote]))

def quoted (s : String) : String := quotedPoints (codePoints s)

end TraceGraph.Text
