import TraceGraph.Json
import TraceGraph.Binary64.Shortest
import TraceGraph.Numeral.Decimal
import TraceGraph.Text.Quoted

/-! JSON text of a value on one line, in ASCII: a comma or a colon is followed by a space, a character
outside printable ASCII is written by its UTF-16 units in hexadecimal, and a float by its shortest
text. The words for the numbers that are not finite go beyond the standard. Every value has a text; a
writer whose nesting or whose integers are bounded refuses those that go beyond. -/

namespace TraceGraph.Json

def unitEscape (n : Nat) : List Char := '\\' :: 'u' :: Text.hex 4 n

def escapeChar (c : Char) : List Char :=
  if c = '"' then ['\\', '"']
  else if c = '\\' then ['\\', '\\']
  else if c = '\n' then ['\\', 'n']
  else if c = '\r' then ['\\', 'r']
  else if c = '\t' then ['\\', 't']
  else if c = '\x0c' then ['\\', 'f']
  else if c = '\x08' then ['\\', 'b']
  else if 0x20 ≤ c.toNat ∧ c.toNat < 0x7f then [c]
  else if c.toNat < 0x10000 then unitEscape c.toNat
  else
    let n := c.toNat - 0x10000
    unitEscape (0xd800 + n / 0x400) ++ unitEscape (0xdc00 + n % 0x400)

def writeText (s : String) : List Char := '"' :: (s.toList.flatMap escapeChar ++ ['"'])

def escapePoint : Text.CodePoint → List Char
  | .char c => escapeChar c
  | p@(.half _) => unitEscape p.code

def writePoints (ps : List Text.CodePoint) : List Char := '"' :: (ps.flatMap escapePoint ++ ['"'])

def writeFloat : Binary64 → List Char
  | .infinite false => "Infinity".toList
  | .infinite true => "-Infinity".toList
  | .nan => "NaN".toList
  | x => x.text.toList

mutual

def chars : Json → List Char
  | null => "null".toList
  | bool true => "true".toList
  | bool false => "false".toList
  | int n => (toString n).toList
  | float x => writeFloat x
  | text s => writeText s
  | illFormed t => writePoints t.points
  | list [] => ['[', ']']
  | list (v :: vs) => '[' :: (chars v ++ (charsItems vs ++ [']']))
  | object [] => ['\x7b', '\x7d']
  | object ((k, v) :: ms) =>
    '\x7b' :: (writeText k ++ (':' :: ' ' :: (chars v ++ (charsMembers ms ++ ['\x7d']))))

/-- The items after the first, each with the comma before it. -/
def charsItems : List Json → List Char
  | [] => []
  | v :: vs => ',' :: ' ' :: (chars v ++ charsItems vs)

def charsMembers : List (String × Json) → List Char
  | [] => []
  | (k, v) :: ms =>
    ',' :: ' ' :: (writeText k ++ (':' :: ' ' :: (chars v ++ charsMembers ms)))

end

/-- The text of a value, where neither nesting nor digits are bounded. -/
def write (v : Json) : String := String.ofList (chars v)

/-! ### Bounds -/

inductive WriteError
  | integer (e : Numeral.Oversize)
  | deep

def WriteError.message : WriteError → String
  | integer e => e.message
  | deep => "maximum recursion depth exceeded while encoding a JSON object"

mutual

/-- The first thing in a value that goes beyond the bounds, in the order of its text. -/
def obstacle? (limits : Limits) : Json → Option WriteError
  | int n =>
    match Numeral.decimal limits.digits n with
    | .ok _ => none
    | .error e => some (.integer e)
  | list items => if limits.levels = some 0 then some .deep else obstacleItems? limits.inner items
  | object members => if limits.levels = some 0 then some .deep else obstacleMembers? limits.inner members
  | _ => none

def obstacleItems? (limits : Limits) : List Json → Option WriteError
  | [] => none
  | v :: vs => (obstacle? limits v).or (obstacleItems? limits vs)

def obstacleMembers? (limits : Limits) : List (String × Json) → Option WriteError
  | [] => none
  | (_, v) :: ms => (obstacle? limits v).or (obstacleMembers? limits ms)

end

/-- The text of a value that keeps within bounds. -/
def writeWithin (limits : Limits) (v : Json) : Except WriteError String :=
  match v.obstacle? limits with
  | some e => .error e
  | none => .ok v.write

end TraceGraph.Json
