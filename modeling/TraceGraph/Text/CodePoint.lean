/-! Code points of texts that need not be well formed. A text read from UTF-16 units may hold half of a
surrogate pair without the other half. Such a half stands for itself and is no character, so the text
is no `String`. -/

namespace TraceGraph.Text

/-- A character, or half of a surrogate pair that stands alone, counted from the first such half. -/
inductive CodePoint
  | char (c : Char)
  | half (n : Fin 0x800)
  deriving DecidableEq

namespace CodePoint

def firstHalf : Nat := 0xd800

def code : CodePoint → Nat
  | char c => c.toNat
  | half n => firstHalf + n

def isHalf : CodePoint → Bool
  | char _ => false
  | half _ => true

/-- The code point of a code below 0x110000. -/
def ofCode (n : Nat) : CodePoint :=
  if n.isValidChar then char (Char.ofNat n)
  else half ⟨(n - firstHalf) % 0x800, Nat.mod_lt _ (by decide)⟩

theorem ofCode_code (p : CodePoint) : ofCode p.code = p := by
  cases p with
  | char c =>
    have h : c.toNat.isValidChar := c.valid
    rw [code, ofCode, if_pos h, Char.ofNat_toNat]
  | half n =>
    have h : ¬ (firstHalf + (n : Nat)).isValidChar := by
      have := n.isLt
      simp only [Nat.isValidChar, firstHalf]
      omega
    have hn : (firstHalf + (n : Nat) - firstHalf) % 0x800 = n := by
      rw [Nat.add_sub_cancel_left, Nat.mod_eq_of_lt n.isLt]
    rw [code, ofCode, if_neg h]
    exact congrArg half (Fin.ext hn)

/-- Whether two code points are the halves of a pair, in order. -/
def isPair : CodePoint → CodePoint → Bool
  | half h, half l => h.val < 0x400 && 0x400 ≤ l.val
  | _, _ => false

/-- The character of a pair. -/
def pairChar (h l : Fin 0x800) : Char := Char.ofNat (0x10000 + h * 0x400 + (l - 0x400))

/-- Put the halves of pairs together. -/
def join : List CodePoint → List CodePoint
  | half h :: half l :: ps =>
    if isPair (half h) (half l) then char (pairChar h l) :: join ps
    else half h :: join (half l :: ps)
  | p :: ps => p :: join ps
  | [] => []

/-- Whether no two halves of a pair stand together. -/
def isJoined : List CodePoint → Bool
  | p :: q :: ps => !isPair p q && isJoined (q :: ps)
  | _ => true

/-- The character of a code point; a half is shown as the replacement character. -/
def shown : CodePoint → Char
  | char c => c
  | half _ => '\ufffd'

/-- Code points as a text that shows them. -/
def text (ps : List CodePoint) : String := String.ofList (ps.map shown)

end CodePoint

/-- The code points of a text. -/
def codePoints (s : String) : List CodePoint := s.toList.map .char

@[simp] theorem CodePoint.text_codePoints (s : String) : CodePoint.text (codePoints s) = s := by
  simp [CodePoint.text, codePoints, CodePoint.shown, Function.comp_def]

/-- A text that is no `String`: it holds half of a pair, and no two halves that make one stand together. -/
structure IllFormed where
  points : List CodePoint
  half_mem : points.any CodePoint.isHalf = true
  isJoined : CodePoint.isJoined points = true

end TraceGraph.Text
