import Mathlib.Data.List.Basic
import TraceGraph.Json.Reader
import TraceGraph.Json.Writer

/-! Texts between quotes. What is written for a text reads back as that text, also when it holds halves of
surrogate pairs and is no `String`. -/

namespace TraceGraph

namespace Text.CodePoint

/-- The UTF-16 units of a code point. -/
def units (p : CodePoint) : List Nat :=
  if p.code < 0x10000 then [p.code]
  else [0xd800 + (p.code - 0x10000) / 0x400, 0xdc00 + (p.code - 0x10000) % 0x400]

/-- A code point as its units are read one by one, with the halves of a pair left apart. -/
def apart (p : CodePoint) : List CodePoint := p.units.map ofCode

theorem toNat_lt (c : Char) : c.toNat < 0x110000 := by
  rcases c.valid with h | ⟨-, h⟩
  · exact Nat.lt_trans h (by decide)
  · exact h

theorem code_half_lt (n : Fin 0x800) : (half n).code < 0x10000 := by
  have := n.isLt
  simp only [code, firstHalf]
  omega

theorem apart_ne_nil (p : CodePoint) : p.apart ≠ [] := by
  unfold apart units
  split <;> simp

theorem apart_of_lt {p : CodePoint} (h : p.code < 0x10000) : p.apart = [p] := by
  rw [apart, units, if_pos h, List.map_singleton, ofCode_code]

/-- A character beyond the single units is a pair of halves. -/
theorem apart_of_not_lt {c : Char} (h : ¬ (char c).code < 0x10000) :
    ∃ high low, (char c).apart = [half high, half low] ∧ isPair (half high) (half low) ∧
      pairChar high low = c := by
  have hc := toNat_lt c
  let high : Fin 0x800 := ⟨(c.toNat - 0x10000) / 0x400, by omega⟩
  let low : Fin 0x800 := ⟨0x400 + (c.toNat - 0x10000) % 0x400, by omega⟩
  have hhigh : 0xd800 + (c.toNat - 0x10000) / 0x400 = (half high).code := rfl
  have hlow : 0xdc00 + (c.toNat - 0x10000) % 0x400 = (half low).code := by
    simp only [code, firstHalf, low]
    omega
  refine ⟨high, low, ?_, ?_, ?_⟩
  · have hunits : (char c).units = [(half high).code, (half low).code] := by
      rw [units, if_neg h, ← hhigh, ← hlow]
      rfl
    rw [apart, hunits, List.map_cons, List.map_singleton, ofCode_code, ofCode_code]
  · simp only [isPair, high, low, Bool.and_eq_true, decide_eq_true_eq]
    omega
  · change ¬ c.toNat < 0x10000 at h
    have hnat : 0x10000 + (high : Nat) * 0x400 + ((low : Nat) - 0x400) = c.toNat := by
      simp only [high, low]
      omega
    rw [pairChar, hnat, Char.ofNat_toNat]

/-- Whether a half makes a pair with what follows it can be told from the units. -/
theorem isPair_head?_apart (n : Fin 0x800) {p q : CodePoint} (h : q ∈ p.apart.head?) :
    isPair (half n) q = isPair (half n) p := by
  by_cases hp : p.code < 0x10000
  · rw [apart_of_lt hp] at h
    rw [Option.some.inj h]
  · cases p with
    | half m => exact absurd (code_half_lt m) hp
    | char c =>
      obtain ⟨high, low, happart, hpair, -⟩ := apart_of_not_lt hp
      rw [happart] at h
      obtain rfl : half high = q := Option.some.inj h
      simp only [isPair, Bool.and_eq_true, decide_eq_true_eq] at hpair
      simp only [isPair, Bool.and_eq_false_iff, decide_eq_false_iff_not]
      omega

theorem join_cons_char (c : Char) (ps : List CodePoint) : join (char c :: ps) = char c :: join ps := by
  cases ps <;> rfl

theorem join_cons_half (n : Fin 0x800) {ps : List CodePoint}
    (h : ∀ p ∈ ps.head?, isPair (half n) p = false) : join (half n :: ps) = half n :: join ps := by
  cases ps with
  | nil => rfl
  | cons p ps =>
    cases p with
    | char c => rfl
    | half m =>
      have hnot : isPair (half n) (half m) = false := h _ rfl
      rw [join, hnot]
      rfl

theorem isJoined_tail {p : CodePoint} {ps : List CodePoint} (h : isJoined (p :: ps)) : isJoined ps := by
  cases ps with
  | nil => rfl
  | cons q ps => exact (Bool.and_eq_true_iff.1 h).2

theorem not_isPair_head? {p : CodePoint} {ps : List CodePoint} (h : isJoined (p :: ps)) :
    ∀ q ∈ ps.head?, isPair p q = false := by
  cases ps with
  | nil => rintro q ⟨⟩
  | cons q ps =>
    rintro q ⟨⟩
    simpa using (Bool.and_eq_true_iff.1 h).1

theorem join_eq_self {ps : List CodePoint} (h : isJoined ps) : join ps = ps := by
  induction ps with
  | nil => rfl
  | cons p ps ih =>
    have htail := ih (isJoined_tail h)
    cases p with
    | char c => rw [join_cons_char, htail]
    | half n => rw [join_cons_half n (not_isPair_head? h), htail]

/-- At the front of joined code points stands what stood there, or the character of a pair. -/
theorem mem_head?_join {p q : CodePoint} {ps : List CodePoint} (h : q ∈ (join (p :: ps)).head?) :
    q = p ∨ ∃ c, q = char c := by
  cases p with
  | char c =>
    rw [join_cons_char] at h
    exact .inl (Option.some.inj h).symm
  | half n =>
    by_cases hpair : ∀ r ∈ ps.head?, isPair (half n) r = false
    · rw [join_cons_half n hpair] at h
      exact .inl (Option.some.inj h).symm
    · cases ps with
      | nil => exact absurd nofun hpair
      | cons r ps =>
        cases r with
        | char c => exact absurd (by rintro r ⟨⟩; rfl) hpair
        | half m =>
          have hm : isPair (half n) (half m) := by
            by_contra hnot
            refine hpair ?_
            rintro r ⟨⟩
            exact Bool.eq_false_iff.2 hnot
          rw [join, if_pos hm] at h
          exact .inr ⟨_, (Option.some.inj h).symm⟩

theorem isJoined_cons {p : CodePoint} {ps : List CodePoint} (hhead : ∀ q ∈ ps.head?, isPair p q = false)
    (h : isJoined ps) : isJoined (p :: ps) := by
  cases ps with
  | nil => rfl
  | cons q ps => exact Bool.and_eq_true_iff.2 ⟨by simp [hhead q rfl], h⟩

theorem isJoined_join (ps : List CodePoint) : isJoined (join ps) := by
  fun_induction join ps with
  | case1 h l ps hpair ih => exact isJoined_cons (fun _ _ => rfl) ih
  | case2 h l ps hpair ih =>
    refine isJoined_cons (fun q hq => ?_) ih
    rcases mem_head?_join hq with rfl | ⟨c, rfl⟩
    · exact Bool.eq_false_iff.2 hpair
    · rfl
  | case3 p ps hnext ih =>
    refine isJoined_cons (fun q hq => ?_) ih
    cases p with
    | char c => rfl
    | half n =>
      cases ps with
      | nil => cases hq
      | cons r ps =>
        cases r with
        | char c =>
          rw [join_cons_char] at hq
          rw [← Option.some.inj hq]
          rfl
        | half m => exact (hnext n m ps rfl rfl).elim
  | case4 => rfl

/-- Joining leaves code points as they are only if no halves of a pair stand together. -/
theorem join_eq_self_iff {ps : List CodePoint} : join ps = ps ↔ isJoined ps :=
  ⟨fun h => h ▸ isJoined_join ps, join_eq_self⟩

/-- Code points without a pair of halves come back from their units. -/
theorem join_flatMap_apart {ps : List CodePoint} (h : isJoined ps) : join (ps.flatMap apart) = ps := by
  induction ps with
  | nil => rfl
  | cons p ps ih =>
    have htail := ih (isJoined_tail h)
    rw [List.flatMap_cons]
    cases p with
    | char c =>
      by_cases hc : (char c).code < 0x10000
      · rw [apart_of_lt hc, List.singleton_append, join_cons_char, htail]
      · obtain ⟨high, low, happart, hpair, hchar⟩ := apart_of_not_lt hc
        rw [happart, List.cons_append, List.singleton_append, join, if_pos hpair, hchar, htail]
    | half n =>
      have hnext : ∀ q ∈ (ps.flatMap apart).head?, isPair (half n) q = false := by
        intro q hq
        cases ps with
        | nil => cases hq
        | cons p ps =>
          have hp : isPair (half n) p = false := not_isPair_head? h p rfl
          have hhead : q ∈ p.apart.head? := by
            rwa [List.flatMap_cons, List.head?_append_of_ne_nil _ p.apart_ne_nil] at hq
          rw [isPair_head?_apart n hhead, hp]
      rw [apart_of_lt (code_half_lt n), List.singleton_append, join_cons_half n hnext, htail]

theorem isJoined_codePoints (s : String) : isJoined (codePoints s) := by
  unfold codePoints
  induction s.toList with
  | nil => rfl
  | cons c cs ih =>
    cases cs with
    | nil => rfl
    | cons d cs => exact ih

end Text.CodePoint

namespace Json

open Text.CodePoint

theorem hexValue?_hexDigit {n : Nat} (h : n < 16) : hexValue? (Text.hexDigit n) = some n := by
  have hall : ∀ n : Fin 16, hexValue? (Text.hexDigit n) = some n.val := by decide
  exact hall ⟨n, h⟩

theorem readCodes_unitEscape {n : Nat} (h : n < 0x10000) (cs : List Char) :
    readCodes (unitEscape n ++ cs) = (readCodes cs).map fun r => (n :: r.1, r.2) := by
  have hunit : hexUnit? (Text.hexDigit (n / 16 / 16 / 16 % 16)) (Text.hexDigit (n / 16 / 16 % 16))
      (Text.hexDigit (n / 16 % 16)) (Text.hexDigit (n % 16)) = some n := by
    simp only [hexUnit?, hexValue?_hexDigit (Nat.mod_lt _ (by decide : 16 > 0)), Option.bind_eq_bind,
      Option.bind_some, Option.pure_def, Option.some.injEq]
    omega
  change readCodes ('\\' :: 'u' :: Text.hexDigit _ :: Text.hexDigit _ :: Text.hexDigit _ ::
    Text.hexDigit _ :: cs) = _
  rw [readCodes, hunit, Option.bind_some]

/-- The units of a code point come back from its escape. -/
theorem readCodes_escapePoint (p : Text.CodePoint) (cs : List Char) :
    readCodes (escapePoint p ++ cs) = (readCodes cs).map fun r => (p.units ++ r.1, r.2) := by
  cases p with
  | half n =>
    rw [units, if_pos (code_half_lt n)]
    exact readCodes_unitEscape (code_half_lt n) cs
  | char c =>
    change readCodes (escapeChar c ++ cs) = _
    unfold escapeChar
    split_ifs with hquote hslash hnewline hreturn htab hfeed hback hplain hsmall
    · subst hquote
      rfl
    · subst hslash
      rfl
    · subst hnewline
      rfl
    · subst hreturn
      rfl
    · subst htab
      rfl
    · subst hfeed
      rfl
    · subst hback
      rfl
    · have hcontrol : ¬ (c.toNat < 0x20 ∨ c = '\\') := by
        rintro (h | h)
        · omega
        · exact hslash h
      have hunits : (char c).units = [c.toNat] := by
        have hsmall : (char c).code < 0x10000 := Nat.lt_trans hplain.2 (by decide)
        rw [units, if_pos hsmall]
        rfl
      rw [List.singleton_append, hunits, readCodes, if_neg hcontrol]
      · rfl
      · exact hquote
      · rintro _ _ _ _ _ rfl
        exact (hslash rfl).elim
      · rintro _ _ rfl
        exact (hslash rfl).elim
    · have hunits : (char c).units = [c.toNat] := if_pos hsmall
      rw [hunits]
      exact readCodes_unitEscape hsmall cs
    · have hc : c.toNat < 0x110000 := toNat_lt c
      have hunits : (char c).units = [_, _] := if_neg hsmall
      rw [hunits, List.append_assoc, readCodes_unitEscape (by omega), readCodes_unitEscape (by omega),
        Option.map_map]
      rfl

/-- Code points without a pair of halves come back from between the quotes. -/
theorem readText_escapePoints {ps : List Text.CodePoint} (h : isJoined ps) (cs : List Char) :
    readText (ps.flatMap escapePoint ++ '"' :: cs) = some (ps, cs) := by
  have hcodes : readCodes (ps.flatMap escapePoint ++ '"' :: cs) = some (ps.flatMap units, cs) := by
    clear h
    induction ps with
    | nil => rfl
    | cons p ps ih =>
      rw [List.flatMap_cons, List.append_assoc, readCodes_escapePoint, ih]
      rfl
  rw [readText, hcodes, Option.map_some, List.map_flatMap]
  exact congrArg (fun qs => some (qs, cs)) (join_flatMap_apart h)

/-- A pair of halves is written as its character is. -/
theorem escapeChar_pairChar {high low : Fin 0x800} (h : isPair (half high) (half low)) :
    escapeChar (pairChar high low) = escapePoint (half high) ++ escapePoint (half low) := by
  simp only [isPair, Bool.and_eq_true, decide_eq_true_eq] at h
  have hlow := low.isLt
  let n : Nat := 0x10000 + (high : Nat) * 0x400 + ((low : Nat) - 0x400)
  have hvalid : n.isValidChar := .inr ⟨by omega, by omega⟩
  have hchar : (pairChar high low).toNat = n := by
    rw [pairChar, Char.ofNat, dif_pos hvalid]
    rfl
  have hne {c : Char} (hc : c.toNat < 0x10000) : pairChar high low ≠ c := by
    rintro rfl
    omega
  have hhigh : 0xd800 + (n - 0x10000) / 0x400 = (half high).code := by
    simp only [code, firstHalf]
    omega
  have hrest : 0xdc00 + (n - 0x10000) % 0x400 = (half low).code := by
    simp only [code, firstHalf]
    omega
  rw [escapeChar, if_neg (hne (by decide)), if_neg (hne (by decide)), if_neg (hne (by decide)),
    if_neg (hne (by decide)), if_neg (hne (by decide)), if_neg (hne (by decide)), if_neg (hne (by decide)),
    hchar, if_neg (by omega), if_neg (by omega)]
  change unitEscape (0xd800 + (n - 0x10000) / 0x400) ++ unitEscape (0xdc00 + (n - 0x10000) % 0x400) = _
  rw [hhigh, hrest]
  rfl

/-- Halves of pairs may be put together before a text is written. -/
theorem flatMap_escapePoint_join (ps : List Text.CodePoint) :
    (join ps).flatMap escapePoint = ps.flatMap escapePoint := by
  fun_induction join ps with
  | case1 h l ps hpair ih =>
    have hpoint : escapePoint (char (pairChar h l)) = escapePoint (half h) ++ escapePoint (half l) :=
      escapeChar_pairChar hpair
    rw [List.flatMap_cons, ih, List.flatMap_cons, List.flatMap_cons, hpoint, List.append_assoc]
  | case2 h l ps hpair ih =>
    rw [List.flatMap_cons, ih]
    exact List.flatMap_cons.symm
  | case3 p ps hnext ih => rw [List.flatMap_cons, List.flatMap_cons, ih]
  | case4 => rfl

/-- A text as written, but for its opening quote, reads back as its characters. -/
theorem readText_escapeChars (s : String) (cs : List Char) :
    readText (s.toList.flatMap escapeChar ++ '"' :: cs) = some (Text.codePoints s, cs) := by
  rw [← readText_escapePoints (isJoined_codePoints s), Text.codePoints, List.flatMap_map]
  rfl

end Json

end TraceGraph
