import Mathlib.Data.List.Nodup
import TraceGraph.Proofs.Escapes
import TraceGraph.Proofs.Table

/-! The text of a value, read back. A value reads back wherever its text stands, and so does every list of
such values and every object of them under distinct keys, if the reader goes one level deeper. Integers read
back that have no more digits than are admitted, if their number is bounded. -/

namespace TraceGraph

namespace Numeral

/-- Integers with no more digits than are read and written. -/
def IsReadable (n : Int) : Prop := (Nat.toDigits 10 n.natAbs).length ≤ digitLimit

instance (n : Int) : Decidable (IsReadable n) := inferInstanceAs (Decidable (_ ≤ _))

/-- Integers with no more digits than a bound admits. -/
def Fits (digits : Option Nat) (n : Int) : Prop := ∀ d ∈ digits, (Nat.toDigits 10 n.natAbs).length ≤ d

instance (digits : Option Nat) (n : Int) : Decidable (Fits digits n) :=
  inferInstanceAs (Decidable (∀ d ∈ digits, _ ≤ d))

theorem fits_digitLimit_iff {n : Int} : Fits (some digitLimit) n ↔ IsReadable n := by
  refine ⟨fun h => h digitLimit rfl, ?_⟩
  rintro h d ⟨⟩
  exact h

theorem IsReadable.fits {n : Int} (h : IsReadable n) : Fits (some digitLimit) n := fits_digitLimit_iff.2 h

/-- A power of ten has one digit more than its exponent. -/
theorem not_fits_pow {d : Nat} (h : 0 < d) : ¬ Fits (some d) (Int.pow 10 d) := by
  intro hfits
  have hshort := (Nat.length_toDigits_le_iff (by decide) h).1 (hfits d rfl)
  have habs : (Int.pow 10 d).natAbs = 10 ^ d := Int.natAbs_pow 10 d
  rw [habs] at hshort
  exact Nat.lt_irrefl _ hshort

/-- The integers that fit are those that are written. -/
theorem decimal_of_fits {digits : Option Nat} {n : Int} (h : Fits digits n) :
    decimal digits n = .ok (toString n) := by
  cases digits with
  | none => rfl
  | some limit => exact if_neg (Nat.not_lt.2 (h limit rfl))

theorem decimal_of_not_fits {digits : Option Nat} {n : Int} (h : ¬ Fits digits n) :
    ∃ limit ∈ digits, decimal digits n = .error ⟨limit⟩ := by
  cases digits with
  | none => exact absurd (nofun : Fits none n) h
  | some limit =>
    refine ⟨limit, rfl, if_pos (Nat.not_le.1 fun hshort => h ?_)⟩
    rintro d ⟨⟩
    exact hshort

theorem decimal_eq_ok_iff {digits : Option Nat} {n : Int} {s : String} :
    decimal digits n = .ok s ↔ Fits digits n ∧ toString n = s := by
  by_cases h : Fits digits n
  · simp [decimal_of_fits h, h]
  · obtain ⟨limit, -, hlimit⟩ := decimal_of_not_fits h
    simp [hlimit, h]

theorem ofDigits_digitValues {cs : List Char} (h : ∀ c ∈ cs, c.isDigit) :
    Text.ofDigits (digitValues cs) = Nat.ofDigitChars 10 cs 0 := by
  have hvalues : digitValues cs = cs.map fun c => c.toNat - '0'.toNat := by
    induction cs with
    | nil => rfl
    | cons c cs ih =>
      have hc : Text.asciiDigit? c = some (c.toNat - '0'.toNat) := if_pos (h c List.mem_cons_self)
      have htail := ih fun d hd => h d (List.mem_cons_of_mem c hd)
      rw [digitValues] at htail ⊢
      rw [List.filterMap_cons_some hc, htail, List.map_cons]
  rw [hvalues, Text.ofDigits, List.foldl_map]
  rfl

theorem isDigit_of_mem_toDigits {n : Nat} : ∀ c ∈ Nat.toDigits 10 n, c.isDigit :=
  fun _ => Nat.isDigit_of_mem_toDigits (by decide) (by decide)

/-- Only zero is written with a zero in front. -/
theorem eq_zero_of_toDigits_eq_cons {n : Nat} {cs : List Char} (h : Nat.toDigits 10 n = '0' :: cs) :
    n = 0 := by
  induction n using Nat.strongRecOn generalizing cs with
  | ind n ih =>
    by_cases hn : n < 10
    · rw [Nat.toDigits_of_lt_base hn] at h
      exact Nat.digitChar_eq_zero.1 (List.cons.inj h).1
    · rw [Nat.toDigits_of_base_le (by decide) (by omega)] at h
      cases hq : Nat.toDigits 10 (n / 10) with
      | nil => exact absurd hq Nat.toDigits_ne_nil
      | cons c ds =>
        rw [hq, List.cons_append] at h
        obtain rfl := (List.cons.inj h).1
        have := ih (n / 10) (by omega) hq
        omega

end Numeral

namespace Json

open Numeral

variable {limits : Limits}

/-- What may stand after a value: the end of the text, or the mark that ends an item. -/
def Ends (cs : List Char) : Prop := ∀ c ∈ cs.head?, c = ',' ∨ c = ']' ∨ c = '\x7d'

/-- Wherever the text of a value stands, the value is read from it. Two units of fuel for each character
are enough: every level and every item has a character of its own. -/
structure ReadsBack (limits : Limits) (v : Json) : Prop where
  start : ∃ c cs, chars v = c :: cs ∧ isSpace c = false ∧ c ≠ ']'
  readValue_succ : ∀ {fuel cs}, 2 * (chars v).length ≤ fuel + 1 → Ends cs →
    readValue limits (fuel + 1) (chars v ++ cs) = .ok (v, cs)

theorem ReadsBack.skipSpace {v : Json} (h : ReadsBack limits v) (cs : List Char) :
    skipSpace (chars v ++ cs) = chars v ++ cs := by
  obtain ⟨c, ds, hchars, hspace, -⟩ := h.start
  rw [hchars]
  exact List.dropWhile_cons_of_neg (by simp [hspace])

theorem ReadsBack.length_pos {v : Json} (h : ReadsBack limits v) : 0 < (chars v).length := by
  obtain ⟨c, ds, hchars, -⟩ := h.start
  rw [hchars]
  exact Nat.succ_pos _

theorem ReadsBack.readValue {v : Json} (h : ReadsBack limits v) {fuel : Nat} {cs : List Char}
    (hfuel : 2 * (chars v).length ≤ fuel) (hcs : Ends cs) :
    readValue limits fuel (chars v ++ cs) = .ok (v, cs) := by
  have hpos := h.length_pos
  obtain ⟨f, rfl⟩ : ∃ f, fuel = f + 1 := ⟨fuel - 1, by omega⟩
  exact h.readValue_succ hfuel hcs

/-! ### Numbers -/

/-- What may stand after digits that are read as far as they go. -/
def NoDigit (cs : List Char) : Prop := ∀ c ∈ cs.head?, c.isDigit = false

theorem Ends.noDigit {cs : List Char} (h : Ends cs) : NoDigit cs := by
  intro c hc
  rcases h c hc with rfl | rfl | rfl <;> rfl

theorem NoDigit.takeWhile_append {ds cs : List Char} (hds : ∀ d ∈ ds, d.isDigit) (h : NoDigit cs) :
    (ds ++ cs).takeWhile Char.isDigit = ds := by
  rw [List.takeWhile_append_of_pos hds]
  cases cs with
  | nil => exact List.append_nil ds
  | cons c cs => rw [List.takeWhile_cons_of_neg (by simp [h c rfl]), List.append_nil]

theorem NoDigit.dropWhile_append {ds cs : List Char} (hds : ∀ d ∈ ds, d.isDigit) (h : NoDigit cs) :
    (ds ++ cs).dropWhile Char.isDigit = cs := by
  rw [List.dropWhile_append_of_pos hds]
  cases cs with
  | nil => rfl
  | cons c cs => exact List.dropWhile_cons_of_neg (by simp [h c rfl])

/-- Digits that are read as a whole part. -/
inductive IsWhole : List Char → Prop
  | zero : IsWhole ['0']
  | digits {d : Char} {ds : List Char} (hne : d ≠ '0') (h : ∀ c ∈ d :: ds, c.isDigit) : IsWhole (d :: ds)

theorem IsWhole.isDigit {w : List Char} (h : IsWhole w) : ∀ d ∈ w, d.isDigit := by
  cases h with
  | zero => exact List.forall_mem_singleton.2 rfl
  | digits _ h => exact h

theorem IsWhole.wholePart? {w cs : List Char} (h : IsWhole w) (hcs : NoDigit cs) :
    wholePart? (w ++ cs) = some (w, cs) := by
  cases h with
  | zero => rfl
  | @digits d ds hne h =>
    obtain ⟨hd, hds⟩ := List.forall_mem_cons.1 h
    rw [List.cons_append, Json.wholePart?, if_pos hd, hcs.takeWhile_append hds, hcs.dropWhile_append hds]
    exact hne

theorem isWhole_toDigits (n : Nat) : IsWhole (Nat.toDigits 10 n) := by
  have hdigits := isDigit_of_mem_toDigits (n := n)
  cases hn : Nat.toDigits 10 n with
  | nil => exact absurd hn Nat.toDigits_ne_nil
  | cons d ds =>
    by_cases hd : d = '0'
    · subst hd
      obtain rfl := eq_zero_of_toDigits_eq_cons hn
      obtain rfl : [] = ds := (List.cons.inj hn).2
      exact .zero
    · exact .digits hd (hn ▸ hdigits)

theorem placesPart_of_ends {cs : List Char} (h : Ends cs) : placesPart cs = ([], cs) := by
  unfold placesPart
  split
  · have hpoint := h '.' rfl
    simp at hpoint
  · rfl

theorem exponentPart_of_ends {cs : List Char} (h : Ends cs) : exponentPart cs = (none, cs) := by
  cases cs with
  | nil => rfl
  | cons c cs =>
    have hmark : ¬ (c = 'e' ∨ c = 'E') := by
      rcases h c rfl with rfl | rfl | rfl <;> decide
    exact if_neg hmark

/-- An integer of at most the admitted number of digits is read. -/
theorem readNumber_toDigits (negative : Bool) {n : Nat} (hn : ∀ d ∈ limits.digits, (Nat.toDigits 10 n).length ≤ d)
    {cs : List Char} (h : Ends cs) :
    readNumber limits.digits negative (Nat.toDigits 10 n ++ cs) =
      .ok (.int (if negative then -(n : Int) else n), cs) := by
  have hvalue : Text.ofDigits (digitValues (Nat.toDigits 10 n)) = n := by
    rw [ofDigits_digitValues isDigit_of_mem_toDigits, Nat.ofDigitChars_ten_toDigits]
  have hshort : ¬ limits.digits.any (· < (Nat.toDigits 10 n).length) := by
    rw [Option.any_eq_true]
    rintro ⟨d, hd, hlong⟩
    exact Nat.not_lt.2 (hn d hd) (of_decide_eq_true hlong)
  rw [readNumber, (isWhole_toDigits n).wholePart? h.noDigit]
  simp only [placesPart_of_ends h, exponentPart_of_ends h, and_self, if_true, if_neg hshort, hvalue]

theorem chars_int (n : Int) :
    chars (.int n) =
      if n < 0 then '-' :: Nat.toDigits 10 n.natAbs else Nat.toDigits 10 n.natAbs := by
  rw [chars, Int.toString_eq_repr, Int.repr_eq_if]
  by_cases h : n < 0
  · have habs : (-n).toNat = n.natAbs := by omega
    rw [if_neg (by omega), if_pos h, habs, String.toList_append, Nat.toList_repr]
    rfl
  · have habs : n.toNat = n.natAbs := by omega
    rw [if_pos (by omega), if_neg h, habs, Nat.toList_repr]

theorem readValue_digit {d : Char} (h : d.isDigit) (fuel : Nat) (cs : List Char) :
    readValue limits (fuel + 1) (d :: cs) = readNumber limits.digits false (d :: cs) := by
  unfold readValue
  split <;> simp_all

theorem readValue_minus {d : Char} (h : d.isDigit) (fuel : Nat) (cs : List Char) :
    readValue limits (fuel + 1) ('-' :: d :: cs) = readNumber limits.digits true (d :: cs) := by
  unfold readValue
  split <;> simp_all

theorem isSpace_eq_false_of_isDigit {d : Char} (h : d.isDigit) : isSpace d = false ∧ d ≠ ']' := by
  constructor
  · simp only [isSpace, Bool.or_eq_false_iff, decide_eq_false_iff_not]
    refine ⟨⟨⟨?_, ?_⟩, ?_⟩, ?_⟩ <;> rintro rfl <;> cases h
  · rintro rfl
    cases h

theorem readsBack_int {n : Int} (hn : Fits limits.digits n) : ReadsBack limits (.int n) := by
  obtain ⟨d, ds, hds⟩ : ∃ d ds, Nat.toDigits 10 n.natAbs = d :: ds :=
    List.exists_cons_of_ne_nil Nat.toDigits_ne_nil
  have hd : d.isDigit := isDigit_of_mem_toDigits d (by rw [hds]; exact List.mem_cons_self)
  have hchars := chars_int n
  by_cases hneg : n < 0
  · have habs : -(n.natAbs : Int) = n := by omega
    rw [if_pos hneg] at hchars
    refine ⟨⟨'-', _, hchars, rfl, by decide⟩, fun {fuel cs} _ hcs => ?_⟩
    have hread := readNumber_toDigits true hn hcs
    rw [if_pos rfl, habs, hds] at hread
    rw [hchars, hds, List.cons_append, List.cons_append, readValue_minus hd]
    exact hread
  · have habs : (n.natAbs : Int) = n := by omega
    rw [if_neg hneg] at hchars
    refine ⟨⟨d, ds, hchars.trans hds, isSpace_eq_false_of_isDigit hd⟩, fun {fuel cs} _ hcs => ?_⟩
    have hread := readNumber_toDigits false hn hcs
    rw [if_neg (by decide), habs, hds] at hread
    rw [hchars, hds, List.cons_append, readValue_digit hd]
    exact hread

/-! ### Values without parts -/

theorem readsBack_null : ReadsBack limits .null :=
  ⟨⟨_, _, rfl, rfl, by decide⟩, fun _ _ => rfl⟩

theorem readsBack_bool (b : Bool) : ReadsBack limits (.bool b) := by
  cases b with
  | false => exact ⟨⟨_, _, rfl, rfl, by decide⟩, fun _ _ => rfl⟩
  | true => exact ⟨⟨_, _, rfl, rfl, by decide⟩, fun _ _ => rfl⟩

theorem readValue_quote {fuel : Nat} {cs rest : List Char} {ps : List Text.CodePoint}
    (h : readText cs = some (ps, rest)) :
    readValue limits (fuel + 1) ('"' :: cs) = .ok (ofCodePoints ps, rest) := by
  rw [readValue]
  simp only [h]

theorem readsBack_text (s : String) : ReadsBack limits (.text s) := by
  refine ⟨⟨_, _, rfl, rfl, by decide⟩, fun {fuel cs} _ _ => ?_⟩
  rw [chars, writeText, List.cons_append, List.append_assoc, List.singleton_append,
    readValue_quote (readText_escapeChars s cs), ofCodePoints_codePoints]

theorem readsBack_illFormed (t : Text.IllFormed) : ReadsBack limits (.illFormed t) := by
  refine ⟨⟨_, _, rfl, rfl, by decide⟩, fun {fuel cs} _ _ => ?_⟩
  rw [chars, writePoints, List.cons_append, List.append_assoc, List.singleton_append,
    readValue_quote (readText_escapePoints t.isJoined cs), ofCodePoints,
    dif_pos ⟨t.half_mem, t.isJoined⟩]

/-! ### Lists -/

theorem ends_charsItems (vs : List Json) (cs : List Char) : Ends (charsItems vs ++ ']' :: cs) := by
  cases vs with
  | nil => rintro c ⟨⟩; exact .inr (.inl rfl)
  | cons v vs => rintro c ⟨⟩; exact .inl rfl

theorem readItems_charsItems {v : Json} {vs : List Json} (hv : ReadsBack limits v)
    (hvs : ∀ w ∈ vs, ReadsBack limits w) {fuel : Nat} (cs : List Char)
    (h : 2 * (chars v ++ charsItems vs).length ≤ fuel) :
    readItems limits (fuel + 1) (chars v ++ (charsItems vs ++ ']' :: cs)) = .ok (v :: vs, cs) := by
  induction vs generalizing v fuel with
  | nil =>
    rw [List.length_append] at h
    rw [readItems, hv.readValue (by omega) (ends_charsItems [] cs)]
    rfl
  | cons w ws ih =>
    have hlength : (chars v ++ charsItems (w :: ws)).length =
        (chars v).length + (2 + (chars w ++ charsItems ws).length) := by
      rw [List.length_append, charsItems, List.length_cons, List.length_cons]
      omega
    rw [hlength] at h
    obtain ⟨f, rfl⟩ : ∃ f, fuel = f + 1 := ⟨fuel - 1, by omega⟩
    have hw := hvs w List.mem_cons_self
    have hrest : readItems limits (f + 1)
        (skipSpace (' ' :: (chars w ++ (charsItems ws ++ ']' :: cs)))) = .ok (w :: ws, cs) := by
      change readItems limits (f + 1) (skipSpace (chars w ++ (charsItems ws ++ ']' :: cs))) = _
      rw [hw.skipSpace]
      exact ih hw (fun u hu => hvs u (List.mem_cons_of_mem w hu)) (by omega)
    have happend : charsItems (w :: ws) ++ ']' :: cs =
        ',' :: ' ' :: (chars w ++ (charsItems ws ++ ']' :: cs)) := by
      rw [charsItems, List.cons_append, List.cons_append, List.append_assoc]
    rw [readItems, hv.readValue (by omega) (ends_charsItems (w :: ws) cs), happend]
    change (readItems limits (f + 1) (skipSpace (' ' :: _)) >>= _) = _
    rw [hrest]
    rfl

theorem readValue_list (hlevels : limits.levels ≠ some 0) (fuel : Nat) (cs : List Char) :
    readValue limits (fuel + 1) ('[' :: cs) = match skipSpace cs with
      | ']' :: r => .ok (.list [], r)
      | r => (readItems limits.inner fuel r).map fun x => (.list x.1, x.2) := if_neg hlevels

theorem readValue_bracket (hlevels : limits.levels ≠ some 0) {fuel : Nat} {c : Char} {cs rest : List Char}
    {vs : List Json} (hspace : isSpace c = false) (hbracket : c ≠ ']')
    (h : readItems limits.inner fuel (c :: cs) = .ok (vs, rest)) :
    readValue limits (fuel + 1) ('[' :: c :: cs) = .ok (.list vs, rest) := by
  have hskip : skipSpace (c :: cs) = c :: cs := List.dropWhile_cons_of_neg (by simp [hspace])
  rw [readValue_list hlevels, hskip]
  split
  · next hc => exact (hbracket (List.cons.inj hc).1).elim
  · rw [h]
    rfl

/-- A list of values that read back one level deeper reads back. -/
theorem readsBack_list (hlevels : limits.levels ≠ some 0) {vs : List Json}
    (h : ∀ v ∈ vs, ReadsBack limits.inner v) : ReadsBack limits (.list vs) := by
  cases vs with
  | nil => exact ⟨⟨_, _, rfl, rfl, by decide⟩, fun _ _ => readValue_list hlevels _ _⟩
  | cons v vs =>
    refine ⟨⟨_, _, rfl, rfl, by decide⟩, fun {fuel cs} hfuel _ => ?_⟩
    have hlength : (chars (.list (v :: vs))).length = (chars v ++ charsItems vs).length + 2 := by
      simp only [chars, List.length_cons, List.length_append, List.length_nil]
      omega
    have happend : chars (.list (v :: vs)) ++ cs = '[' :: (chars v ++ (charsItems vs ++ ']' :: cs)) := by
      simp only [chars, List.cons_append, List.append_assoc, List.nil_append]
    rw [hlength] at hfuel
    obtain ⟨f, rfl⟩ : ∃ f, fuel = f + 1 := ⟨fuel - 1, by omega⟩
    have hv := h v List.mem_cons_self
    have hitems := readItems_charsItems hv (fun w hw => h w (List.mem_cons_of_mem v hw)) cs
      (by omega : 2 * (chars v ++ charsItems vs).length ≤ f)
    obtain ⟨c, ds, hc, hspace, hbracket⟩ := hv.start
    rw [hc, List.cons_append] at hitems
    rw [happend, hc, List.cons_append]
    exact readValue_bracket hlevels hspace hbracket hitems

/-! ### Objects -/

theorem ends_charsMembers (ms : List (String × Json)) (cs : List Char) :
    Ends (charsMembers ms ++ '\x7d' :: cs) := by
  cases ms with
  | nil => rintro c ⟨⟩; exact .inr (.inr rfl)
  | cons m ms => rintro c ⟨⟩; exact .inl rfl

/-- The text of a first member: its key, a colon and its value. -/
def charsMember (m : String × Json) : List Char := writeText m.1 ++ ':' :: ' ' :: chars m.2

/-- One member is read, and then a brace or a comma decides. -/
theorem readMembers_charsMember {m : String × Json} (hm : ReadsBack limits m.2) {fuel : Nat}
    {rest : List Char} (hfuel : 2 * (chars m.2).length ≤ fuel) (hrest : Ends rest) :
    readMembers limits (fuel + 1) (charsMember m ++ rest) =
      match skipSpace rest with
      | '\x7d' :: r => .ok ([m], r)
      | ',' :: r => (readMembers limits fuel (skipSpace r)).map fun x => (m :: x.1, x.2)
      | _ => .error .malformed := by
  have happend : charsMember m ++ rest =
      '"' :: (m.1.toList.flatMap escapeChar ++ '"' :: ':' :: ' ' :: (chars m.2 ++ rest)) := by
    simp only [charsMember, writeText, List.cons_append, List.append_assoc, List.nil_append]
  have hvalue : readValue limits fuel (skipSpace (' ' :: (chars m.2 ++ rest))) = .ok (m.2, rest) := by
    change readValue limits fuel (skipSpace (chars m.2 ++ rest)) = _
    rw [hm.skipSpace]
    exact hm.readValue hfuel hrest
  rw [happend, readMembers]
  simp only [readText_escapeChars]
  change (readValue limits fuel (skipSpace (' ' :: (chars m.2 ++ rest))) >>= _) = _
  rw [hvalue, Text.CodePoint.text_codePoints]
  change (match skipSpace rest with
    | '\x7d' :: r => _
    | ',' :: r => readMembers limits fuel (skipSpace r) >>= _
    | _ => _) = _
  split
  · rfl
  · cases readMembers limits fuel _ <;> rfl
  · rfl

theorem readMembers_charsMembers {m : String × Json} {ms : List (String × Json)} (hm : ReadsBack limits m.2)
    (hms : ∀ n ∈ ms, ReadsBack limits n.2) {fuel : Nat} (cs : List Char)
    (h : 2 * (charsMember m ++ charsMembers ms).length ≤ fuel) :
    readMembers limits (fuel + 1) (charsMember m ++ (charsMembers ms ++ '\x7d' :: cs)) =
      .ok (m :: ms, cs) := by
  induction ms generalizing m fuel with
  | nil =>
    have hfuel : 2 * (chars m.2).length ≤ fuel := by
      simp only [charsMember, List.length_append, List.length_cons] at h
      omega
    rw [readMembers_charsMember hm hfuel (ends_charsMembers [] cs)]
    rfl
  | cons n ms ih =>
    have hn := hms n List.mem_cons_self
    have hlength : (charsMember m ++ charsMembers (n :: ms)).length =
        (charsMember m).length + (2 + (charsMember n ++ charsMembers ms).length) := by
      simp only [charsMember, charsMembers, List.length_append, List.length_cons]
      omega
    have hvalue : (chars m.2).length ≤ (charsMember m).length := by
      simp only [charsMember, List.length_append, List.length_cons]
      omega
    rw [hlength] at h
    obtain ⟨f, rfl⟩ : ∃ f, fuel = f + 1 := ⟨fuel - 1, by omega⟩
    have happend : charsMembers (n :: ms) ++ '\x7d' :: cs =
        ',' :: ' ' :: (charsMember n ++ (charsMembers ms ++ '\x7d' :: cs)) := by
      simp only [charsMember, charsMembers, List.cons_append, List.append_assoc]
    have hrest := ih hn (fun u hu => hms u (List.mem_cons_of_mem n hu))
      (by omega : 2 * (charsMember n ++ charsMembers ms).length ≤ f)
    rw [readMembers_charsMember hm (by omega) (ends_charsMembers (n :: ms) cs), happend]
    change (readMembers limits (f + 1) (charsMember n ++ _)).map _ = _
    rw [hrest]
    rfl

theorem readValue_object (hlevels : limits.levels ≠ some 0) (fuel : Nat) (cs : List Char) :
    readValue limits (fuel + 1) ('\x7b' :: cs) = match skipSpace cs with
      | '\x7d' :: r => .ok (.object [], r)
      | r => (readMembers limits.inner fuel r).map fun x => (ofMembers x.1, x.2) := if_neg hlevels

theorem readValue_brace (hlevels : limits.levels ≠ some 0) {fuel : Nat} {cs rest : List Char}
    {ms : List (String × Json)} (h : readMembers limits.inner fuel ('"' :: cs) = .ok (ms, rest)) :
    readValue limits (fuel + 1) ('\x7b' :: '"' :: cs) = .ok (ofMembers ms, rest) := by
  rw [readValue_object hlevels]
  change (readMembers limits.inner fuel ('"' :: cs)).map _ = _
  rw [h]
  rfl

/-- An object of values that read back one level deeper, under distinct keys, reads back. -/
theorem readsBack_object (hlevels : limits.levels ≠ some 0) {ms : List (String × Json)}
    (hkeys : (ms.map Prod.fst).Nodup) (h : ∀ m ∈ ms, ReadsBack limits.inner m.2) :
    ReadsBack limits (.object ms) := by
  cases ms with
  | nil => exact ⟨⟨_, _, rfl, rfl, by decide⟩, fun _ _ => readValue_object hlevels _ _⟩
  | cons m ms =>
    refine ⟨⟨_, _, rfl, rfl, by decide⟩, fun {fuel cs} hfuel _ => ?_⟩
    have happend (cs : List Char) : chars (.object (m :: ms)) ++ cs =
        '\x7b' :: (charsMember m ++ (charsMembers ms ++ '\x7d' :: cs)) := by
      simp only [chars, charsMember, List.cons_append, List.append_assoc, List.nil_append]
    have hlength : (chars (.object (m :: ms))).length = (charsMember m ++ charsMembers ms).length + 2 := by
      rw [← List.append_nil (chars _), happend]
      simp only [List.length_cons, List.length_append, List.length_nil]
      omega
    rw [hlength] at hfuel
    obtain ⟨f, rfl⟩ : ∃ f, fuel = f + 1 := ⟨fuel - 1, by omega⟩
    have hmembers := readMembers_charsMembers (h m List.mem_cons_self)
      (fun n hn => h n (List.mem_cons_of_mem m hn)) cs
      (by omega : 2 * (charsMember m ++ charsMembers ms).length ≤ f)
    have hread := readValue_brace hlevels hmembers
    rw [ofMembers, Table.entries_ofList hkeys] at hread
    rw [happend]
    exact hread

/-- The text of such a value is read as that value. -/
theorem readBounded_write {v : Json} (h : ReadsBack limits v) :
    readBounded limits v.write = .ok v := by
  have hends : Ends [] := by rintro c ⟨⟩
  have hread := h.readValue (Nat.le_add_right (2 * (chars v).length) 2) hends
  have hskip := h.skipSpace []
  rw [List.append_nil] at hread hskip
  rw [readBounded, write, String.toList_ofList, hskip, hread]
  rfl

theorem read_write {v : Json} (h : ReadsBack ⟨none, some digitLimit⟩ v) : read v.write = .ok v :=
  readBounded_write h

end Json

end TraceGraph
