/-! UTF-8: the bytes of characters, and characters from bytes. A byte that no character can begin with or
go on with is read as the replacement character, and so is a character that breaks off. -/

namespace TraceGraph.Text

/-- The bytes of a character in UTF-8. -/
def utf8 (c : Char) : List Nat :=
  let n := c.toNat
  if n < 0x80 then [n]
  else if n < 0x800 then [0xc0 + n / 0x40, 0x80 + n % 0x40]
  else if n < 0x10000 then [0xe0 + n / 0x1000, 0x80 + n / 0x40 % 0x40, 0x80 + n % 0x40]
  else [0xf0 + n / 0x40000, 0x80 + n / 0x1000 % 0x40, 0x80 + n / 0x40 % 0x40, 0x80 + n % 0x40]

/-- How many bytes follow a leading byte of a character, and the range of the first of them. -/
def followingBytes? (b : Nat) : Option (Nat × Nat × Nat) :=
  if 0xc2 ≤ b && b < 0xe0 then some (1, 0x80, 0xbf)
  else if b = 0xe0 then some (2, 0xa0, 0xbf)
  else if b = 0xed then some (2, 0x80, 0x9f)
  else if 0xe1 ≤ b && b < 0xf0 then some (2, 0x80, 0xbf)
  else if b = 0xf0 then some (3, 0x90, 0xbf)
  else if 0xf1 ≤ b && b < 0xf4 then some (3, 0x80, 0xbf)
  else if b = 0xf4 then some (3, 0x80, 0x8f)
  else none

/-- The code of a leading byte without the bits that mark it. -/
def leadBits (following b : Nat) : Nat := b % Nat.pow 2 (6 - following)

/-- The characters of bytes. `pending` is the number of bytes still to come of a character, the range of
the next one and the code so far. -/
def decodeUtf8 (pending : Option (Nat × Nat × Nat × Nat)) : List Nat → List Char
  | [] => if pending.isSome then ['\ufffd'] else []
  | b :: bs =>
    let fresh : List Char :=
      if b < 0x80 then Char.ofNat b :: decodeUtf8 none bs
      else match followingBytes? b with
        | some (n, lo, hi) => decodeUtf8 (some (n, lo, hi, leadBits n b)) bs
        | none => '\ufffd' :: decodeUtf8 none bs
    match pending with
    | none => fresh
    | some (n, lo, hi, code) =>
      if lo ≤ b && b ≤ hi then
        let code := code * 0x40 + b % 0x40
        if n = 1 then Char.ofNat code :: decodeUtf8 none bs
        else decodeUtf8 (some (n - 1, 0x80, 0xbf, code)) bs
      else '\ufffd' :: fresh

end TraceGraph.Text
