import TraceGraph.Binary64.Format
import TraceGraph.Json.Display
import TraceGraph.Json.Writer
import TraceGraph.Log.Message.Conversion
import TraceGraph.Numeral.Integer

/-! Log messages with conversions: each conversion is replaced by its argument, written as the letter
says, and two percent signs stand for one. A conversion to a character may give an unpaired surrogate, so
the finished message is a list of code points. -/

namespace TraceGraph.Log.Message

open Text (CodePoint)

/-! ### Writing an argument -/

/-- The parts of a written argument: a sign, a mark such as `0x`, and the text itself. -/
structure Parts where
  sign : List Char
  mark : List Char
  body : List CodePoint

def signOf (f : Flags) (negative : Bool) : List Char :=
  if negative then ['-'] else if f.sign then ['+'] else if f.blank then [' '] else []

/-- The length from which on a text is taken not to fit into memory. -/
def lengthLimit : Nat := Nat.pow 2 30

/-- Fill up to the width: with blanks to the right or left, or with zeros after the sign and mark. -/
def fill (c : Conversion) (numeric : Bool) (p : Parts) : Except Error (List CodePoint) :=
  let lead := (p.sign ++ p.mark).map CodePoint.char
  let padding (ch : Char) :=
    List.replicate (c.width.getD 0 - (lead.length + p.body.length)) (CodePoint.char ch)
  if lengthLimit ≤ c.width.getD 0 then .error .outOfMemory
  else if c.flags.left then .ok (lead ++ p.body ++ padding ' ')
  else if numeric ∧ c.flags.zero then .ok (lead ++ padding '0' ++ p.body)
  else .ok (padding ' ' ++ lead ++ p.body)

def fillText (c : Conversion) (text : List CodePoint) : Except Error (List CodePoint) :=
  fill c false ⟨[], [], match c.precision with
    | some n => text.take n
    | none => text⟩

/-- The integer that an argument counts as; a float is cut toward zero where that is allowed. -/
def integerArgument (letter : Char) (exact : Bool) (v : Json) : Except Error Int :=
  match v with
  | .int n => .ok n
  | .bool b => .ok (if b then 1 else 0)
  | .float x =>
    if exact then .error (.notInteger letter v)
    else match x.truncate? with
      | some n => .ok n
      | none => if x = .nan then .error .nan else .error .infinite
  | _ => if exact then .error (.notInteger letter v) else .error (.notReal letter v)

/-- An argument as it stands, if none of its integers has more digits than are written. -/
def writable (v : Json) : Except Error Json :=
  match v.obstacle? ⟨none, some Numeral.digitLimit⟩ with
  | some (.integer e) => .error (.oversize e)
  | _ => .ok v

/-- The largest precision that the digits of an integer can have. -/
def digitPrecisionLimit : Nat := Nat.pow 2 31 - 4

/-- Only the decimal digits of an integer are bounded in their number. -/
def integerText (c : Conversion) (base : Nat) (mark : List Char) (n : Int) :
    Except Error (List CodePoint) :=
  let ds := Nat.toDigits base n.natAbs
  if digitPrecisionLimit < c.precision.getD 0 then .error .precisionTooLarge
  else if base = 10 ∧ Numeral.digitLimit < ds.length then .error (.oversize ⟨Numeral.digitLimit⟩)
  else if lengthLimit ≤ c.precision.getD 0 then .error .outOfMemory
  else
    let ds := List.replicate (c.precision.getD 0 - ds.length) '0' ++ ds
    let ds := if c.letter = 'X' then ds.map Char.toUpper else ds
    fill c true ⟨signOf c.flags (n < 0), if c.flags.full then mark else [], ds.map .char⟩

def realArgument (v : Json) : Except Error Binary64 :=
  match v with
  | .float x => .ok x
  | .bool b => .ok (Binary64.ofInt (if b then 1 else 0))
  | .int n =>
    match Binary64.ofInt n with
    | .infinite _ => .error .tooLargeForFloat
    | x => .ok x
  | _ => .error (.notFloat v)

def realText (c : Conversion) (style : Binary64.Style) (x : Binary64) :
    Except Error (List CodePoint) :=
  if lengthLimit ≤ c.precision.getD 0 then .error .outOfMemory
  else
    let text := x.format style (c.precision.getD 6) c.flags.full
    let (negative, body) := match text with
      | '-' :: body => (true, body)
      | body => (false, body)
    let body := if c.letter.isUpper then body.map Char.toUpper else body
    fill c true ⟨signOf c.flags negative, [], body.map .char⟩

def characterArgument (v : Json) : Except Error CodePoint :=
  let ofCode (n : Int) : Except Error CodePoint :=
    if 0 ≤ n ∧ n < 0x110000 then .ok (.ofCode n.toNat) else .error .noSuchCharacter
  let only (ps : List CodePoint) : Except Error CodePoint :=
    match ps with
    | [p] => .ok p
    | _ => .error .notCharacter
  match v with
  | .text s => only (Text.codePoints s)
  | .illFormed t => only t.points
  | .int n => ofCode n
  | .bool b => ofCode (if b then 1 else 0)
  | _ => .error .notCharacter

/-- A listing in which characters beyond ASCII are escaped. -/
def asciiListing (v : Json) : String :=
  String.ofList (v.listing.toList.flatMap fun c => if c.toNat < 0x80 then [c] else Text.codeEscape c)

/-- Write an argument by the letter of its conversion, which stands at an index of the message. -/
def convert (c : Conversion) (index : Nat) (v : Json) : Except Error (List CodePoint) :=
  match c.letter with
  | 's' => (writable v).bind fun v => fillText c v.displayPoints
  | 'r' => (writable v).bind fun v => fillText c (Text.codePoints v.listing)
  | 'a' => (writable v).bind fun v => fillText c (Text.codePoints (asciiListing v))
  | 'c' => (characterArgument v).bind fun p => fill c false ⟨[], [], [p]⟩
  | 'd' => (integerArgument 'd' false v).bind (integerText c 10 [])
  | 'i' => (integerArgument 'i' false v).bind (integerText c 10 [])
  | 'u' => (integerArgument 'u' false v).bind (integerText c 10 [])
  | 'o' => (integerArgument 'o' true v).bind (integerText c 8 ['0', 'o'])
  | 'x' => (integerArgument 'x' true v).bind (integerText c 16 ['0', 'x'])
  | 'X' => (integerArgument 'X' true v).bind (integerText c 16 ['0', 'X'])
  | 'e' => (realArgument v).bind (realText c .scientific)
  | 'E' => (realArgument v).bind (realText c .scientific)
  | 'f' => (realArgument v).bind (realText c .fixed)
  | 'F' => (realArgument v).bind (realText c .fixed)
  | 'g' => (realArgument v).bind (realText c .general)
  | 'G' => (realArgument v).bind (realText c .general)
  | letter => .error (.unsupported letter index)

/-- Write a message from a position on; each character takes at most one unit of fuel. -/
def expand (length : Nat) : Nat → Supply → List Char → Except Error (List CodePoint)
  | 0, _, _ => .ok []
  | fuel + 1, s, cs =>
    match cs with
    | [] => if s.members.isNone ∧ s.rest ≠ [] then .error .leftOver else .ok []
    | '%' :: '%' :: rest => (expand length fuel s rest).map (.char '%' :: ·)
    | '%' :: rest => do
      let (s, c, rest) ← readConversion s rest
      let (v, s) ← s.next
      let text ← convert c (length - rest.length - 1) v
      return text ++ (← expand length fuel s rest)
    | c :: rest => (expand length fuel s rest).map (.char c :: ·)

/-- The finished message. Without arguments the text stands as it is. -/
def format (message : String) (args : List Json) : Except Error (List CodePoint) :=
  if args = [] then .ok (Text.codePoints message)
  else
    let cs := message.toList
    expand cs.length (cs.length + 1) (Supply.of args) cs

end TraceGraph.Log.Message
