import TraceGraph.Proofs.Encoding
import TraceGraph.Proofs.Rounding

/-! The texts of floats. A finite number is the one nearest to its shortest decimal, and each way of writing
a decimal is read as that decimal: in positional notation, wherever the point falls, and with an exponent.
So every float reads back. -/

namespace TraceGraph

namespace Binary64

theorem ofDecimal_zero (negative : Bool) (e : Int) : ofDecimal negative 0 e = zero negative := rfl

/-- The number nearest to a decimal. -/
def ofSigned (negative : Bool) (d : Decimal) : Binary64 := ofDecimal negative d.coefficient d.exponent

theorem ofSigned_strip (negative : Bool) (fuel : Nat) (d : Decimal) :
    ofSigned negative (d.strip fuel) = ofSigned negative d := by
  induction fuel generalizing d with
  | zero => rfl
  | succ fuel ih =>
    rw [Decimal.strip]
    split
    · next h =>
      have hcoefficient : d.coefficient / 10 * 10 ^ 1 = d.coefficient := by omega
      have hmove := ofDecimal_mul_pow negative (d.coefficient / 10) 1 (d.exponent + 1)
      rw [hcoefficient, Nat.cast_one, add_sub_cancel_right] at hmove
      rw [ih]
      exact hmove.symm
    · rfl

/-- The decimal that ends the search is the value itself. -/
theorem ofSigned_exactDecimal (negative : Bool) (e : Fin 2047) (f : Fin (Nat.pow 2 52)) :
    ofSigned negative (exactDecimal e f) = .finite negative e f := by
  rw [ofSigned, ofDecimal_eq_ofRatio]
  obtain ⟨n, hn⟩ : ∃ n, n = (-scale e).toNat := ⟨_, rfl⟩
  have hwhole : (exactDecimal e f).exponent.toNat = 0 := by
    simp only [exactDecimal]
    omega
  have hplaces : (-(exactDecimal e f).exponent).toNat = n := by
    simp only [exactDecimal]
    omega
  have hnum : (exactDecimal e f).coefficient = (magnitude e f).1 * 5 ^ n := by
    rw [hn]
    rfl
  have hden : (10 : Nat) ^ n = (magnitude e f).2 * 5 ^ n := by
    rw [hn]
    exact Nat.mul_pow 2 5 (-scale e).toNat
  have hpos : 0 < (magnitude e f).2 := Nat.pow_pos two_pos
  rw [hwhole, hplaces, pow_zero, Nat.mul_one, hnum, hden,
    ofRatio_mul negative (by positivity) _ hpos, ofRatio_magnitude]

theorem ofSigned_of_mem_candidates {e : Fin 2047} {f : Fin (Nat.pow 2 52)} {n : Nat} {d : Decimal}
    (h : d ∈ candidates e f n) (negative : Bool) : ofSigned negative d = .finite negative e f := by
  have hreads : ofDecimal false d.coefficient d.exponent = .finite false e f :=
    of_decide_eq_true (List.mem_filter.1 h).2
  rw [ofDecimal_eq_ofRatio] at hreads
  rw [ofSigned, ofDecimal_eq_ofRatio]
  exact ofRatio_of_eq_finite hreads negative

/-- A finite number is the one nearest to its shortest decimal. -/
theorem ofSigned_shortest (negative : Bool) (e : Fin 2047) (f : Fin (Nat.pow 2 52)) :
    ofSigned negative (shortest e f) = .finite negative e f := by
  rw [shortest]
  split
  · next hzero =>
    obtain ⟨he, hf⟩ := eq_zero_of_significand_eq_zero hzero
    obtain rfl : e = 0 := Fin.ext he
    obtain rfl : f = 0 := Fin.ext hf
    rfl
  · rw [ofSigned_strip]
    cases hfound : (List.range 17).findSome? fun n => (candidates e f (n + 1)).head? with
    | none => exact ofSigned_exactDecimal negative e f
    | some d =>
      obtain ⟨n, -, hhead⟩ := List.exists_of_findSome?_eq_some hfound
      exact ofSigned_of_mem_candidates (List.mem_of_mem_head? hhead) negative

end Binary64

namespace Json

open Numeral Binary64

variable (digits : Option Nat)

/-! ### Parts of a number -/

theorem isWhole_singleton {d : Char} (h : d.isDigit) : IsWhole [d] := by
  by_cases hd : d = '0'
  · rw [hd]
    exact .zero
  · exact .digits hd (List.forall_mem_singleton.2 h)

theorem placesPart_append {p cs : List Char} (hne : p ≠ []) (hp : ∀ d ∈ p, d.isDigit) (hcs : NoDigit cs) :
    placesPart ('.' :: (p ++ cs)) = (p, cs) := by
  rw [placesPart, hcs.takeWhile_append hp, hcs.dropWhile_append hp, if_neg hne]

/-- The digits of an exponent, at least two. -/
def exponentDigits (n : Nat) : List Char :=
  if (Nat.toDigits 10 n).length < 2 then '0' :: Nat.toDigits 10 n else Nat.toDigits 10 n

theorem exponentText_eq (e : Int) :
    exponentText e = 'e' :: (if e < 0 then '-' else '+') :: exponentDigits e.natAbs := rfl

theorem isDigit_of_mem_exponentDigits {n : Nat} : ∀ d ∈ exponentDigits n, d.isDigit := by
  rw [exponentDigits]
  split
  · exact List.forall_mem_cons.2 ⟨rfl, isDigit_of_mem_toDigits⟩
  · exact isDigit_of_mem_toDigits

theorem exponentDigits_ne_nil (n : Nat) : exponentDigits n ≠ [] := by
  rw [exponentDigits]
  split
  · exact List.cons_ne_nil _ _
  · exact Nat.toDigits_ne_nil

theorem ofDigits_exponentDigits (n : Nat) : Text.ofDigits (digitValues (exponentDigits n)) = n := by
  rw [ofDigits_digitValues isDigit_of_mem_exponentDigits, exponentDigits]
  split
  · exact Nat.ofDigitChars_cons.trans Nat.ofDigitChars_ten_toDigits
  · exact Nat.ofDigitChars_ten_toDigits

theorem exponentPart_exponentText (e : Int) {cs : List Char} (hcs : NoDigit cs) :
    exponentPart (exponentText e ++ cs) = (some e, cs) := by
  have hsplit (ds : List Char) : splitSign ((if e < 0 then '-' else '+') :: ds) = (decide (e < 0), ds) := by
    by_cases h : e < 0
    · rw [if_pos h, decide_eq_true h]
      rfl
    · rw [if_neg h, decide_eq_false h]
      rfl
  have hdigits := isDigit_of_mem_exponentDigits (n := e.natAbs)
  rw [exponentText_eq, List.cons_append, List.cons_append, exponentPart, if_pos (.inl rfl), hsplit]
  simp only [hcs.takeWhile_append hdigits, hcs.dropWhile_append hdigits, if_neg (exponentDigits_ne_nil _),
    ofDigits_exponentDigits, decide_eq_true_eq, Prod.mk.injEq, Option.some.injEq, and_true]
  split <;> omega

/-! ### Numbers that are no integers -/

/-- A number with decimal places or an exponent is a float. -/
theorem readNumber_of_parts {cs whole places rest rest' rest'' : List Char} {e : Option Int}
    (hwhole : wholePart? cs = some (whole, rest)) (hplaces : placesPart rest = (places, rest'))
    (hexponent : exponentPart rest' = (e, rest'')) (hfloat : ¬ (places = [] ∧ e = none))
    (hdigits : ∀ d ∈ whole ++ places, d.isDigit) (negative : Bool) :
    readNumber digits negative cs =
      .ok (.float (ofDecimal negative (Nat.ofDigitChars 10 (whole ++ places) 0) (e.getD 0 - places.length)),
        rest'') := by
  rw [readNumber, hwhole]
  simp only [hplaces, hexponent, if_neg hfloat, ofDigits_digitValues hdigits]

theorem ofDigitChars_zeros_append (k : Nat) (ds : List Char) :
    Nat.ofDigitChars 10 (List.replicate k '0' ++ ds) 0 = Nat.ofDigitChars 10 ds 0 := by
  rw [Nat.ofDigitChars_append, Nat.ofDigitChars_replicate_zero, Nat.mul_zero]

theorem ofDigitChars_append_zeros (ds : List Char) (k : Nat) :
    Nat.ofDigitChars 10 (ds ++ List.replicate k '0') 0 = Nat.ofDigitChars 10 ds 0 * 10 ^ k := by
  rw [Nat.ofDigitChars_append, Nat.ofDigitChars_replicate_zero, Nat.mul_comm]

theorem readNumber_places {w p cs : List Char} (hw : IsWhole w) (hne : p ≠ []) (hp : ∀ d ∈ p, d.isDigit)
    (hcs : Ends cs) (negative : Bool) :
    readNumber digits negative (w ++ '.' :: p ++ cs) =
      .ok (.float (ofDecimal negative (Nat.ofDigitChars 10 (w ++ p) 0) (-p.length)), cs) := by
  have hpoint : NoDigit ('.' :: (p ++ cs)) := by rintro c ⟨⟩; rfl
  have hdigits : ∀ d ∈ w ++ p, d.isDigit := List.forall_mem_append.2 ⟨hw.isDigit, hp⟩
  have hread := readNumber_of_parts digits (hw.wholePart? hpoint)
    (placesPart_append hne hp hcs.noDigit) (exponentPart_of_ends hcs) (fun h => hne h.1) hdigits negative
  rw [List.append_assoc, List.cons_append, hread, Option.getD_none, zero_sub]

theorem readNumber_exponent {w p cs : List Char} (hw : IsWhole w) (hp : ∀ d ∈ p, d.isDigit) (e : Int)
    (hcs : Ends cs) (negative : Bool) :
    readNumber digits negative (w ++ (if p = [] then [] else '.' :: p) ++ exponentText e ++ cs) =
      .ok (.float (ofDecimal negative (Nat.ofDigitChars 10 (w ++ p) 0) (e - p.length)), cs) := by
  have hmark : NoDigit (exponentText e ++ cs) := by rintro c ⟨⟩; rfl
  have hexponent := exponentPart_exponentText e hcs.noDigit
  have hdigits : ∀ d ∈ w ++ p, d.isDigit := List.forall_mem_append.2 ⟨hw.isDigit, hp⟩
  rw [List.append_assoc, List.append_assoc]
  by_cases hne : p = []
  · subst hne
    exact readNumber_of_parts digits (hw.wholePart? hmark) rfl hexponent nofun hdigits negative
  · have hpoint : NoDigit ('.' :: (p ++ (exponentText e ++ cs))) := by rintro c ⟨⟩; rfl
    rw [if_neg hne]
    exact readNumber_of_parts digits (hw.wholePart? hpoint) (placesPart_append hne hp hmark) hexponent nofun
      hdigits negative

/-! ### The texts of a decimal -/

theorem positionalText_of_nonpos {ds : List Char} {point : Int} (h : point ≤ 0) :
    positionalText ds point = ['0'] ++ '.' :: (List.replicate (-point).toNat '0' ++ ds) :=
  if_pos h

theorem positionalText_of_le {ds : List Char} (hne : ds ≠ []) (k : Nat) :
    positionalText ds (ds.length + k) = ds ++ List.replicate k '0' ++ '.' :: ['0'] := by
  have hpos : 0 < ds.length := List.length_pos_iff.2 hne
  have hpoint : ((ds.length : Int) + k).toNat = ds.length + k := by omega
  have htake : ds.take (ds.length + k) = ds := List.take_of_length_le (Nat.le_add_right ..)
  have hdrop : ds.drop (ds.length + k) = [] := List.drop_of_length_le (Nat.le_add_right ..)
  simp only [positionalText, hpoint, htake, hdrop, Nat.add_sub_cancel_left, if_true]
  exact if_neg (by omega)

theorem positionalText_of_lt {ds : List Char} {m : Nat} (hpos : 0 < m) (h : m < ds.length) :
    positionalText ds m = ds.take m ++ '.' :: ds.drop m := by
  have hdrop : ds.drop m ≠ [] := fun hnil => Nat.not_le.2 h (List.drop_eq_nil_iff.1 hnil)
  have hzeros : m - ds.length = 0 := by omega
  simp only [positionalText, Int.toNat_natCast, if_neg hdrop, hzeros, List.replicate_zero, List.append_nil]
  exact if_neg (by omega)

theorem isDigit_of_mem_zeros {k : Nat} : ∀ c ∈ List.replicate k '0', c.isDigit := by
  intro c hc
  rw [List.eq_of_mem_replicate hc]
  rfl

section

variable {d : Char} {ds cs : List Char} (hds : ∀ c ∈ d :: ds, c.isDigit) (hcs : Ends cs) (negative : Bool)

include hds hcs

/-- Zeros stand between the point and the digits. -/
theorem readNumber_positionalText_of_nonpos {point : Int} (hpoint : point ≤ 0) :
    readNumber digits negative (positionalText (d :: ds) point ++ cs) =
      .ok (.float (ofDecimal negative (Nat.ofDigitChars 10 (d :: ds) 0) (point - (d :: ds).length)), cs) := by
  have hread := readNumber_places digits .zero (List.append_ne_nil_of_right_ne_nil _ (by simp))
    (List.forall_mem_append.2 ⟨isDigit_of_mem_zeros (k := (-point).toNat), hds⟩) hcs negative
  have hcoefficient : Nat.ofDigitChars 10 (['0'] ++ (List.replicate (-point).toNat '0' ++ d :: ds)) 0 =
      Nat.ofDigitChars 10 (d :: ds) 0 := by
    rw [← ofDigitChars_zeros_append (-point).toNat (d :: ds)]
    exact ofDigitChars_zeros_append 1 _
  have hexponent : -((List.replicate (-point).toNat '0' ++ d :: ds).length : Int) =
      point - (d :: ds).length := by
    rw [List.length_append, List.length_replicate]
    omega
  rw [hcoefficient, hexponent] at hread
  rw [positionalText_of_nonpos hpoint]
  exact hread

/-- Zeros stand between the digits and the point, and another one after it. -/
theorem readNumber_positionalText_of_le (hd : d ≠ '0') {point : Int} (hpoint : (d :: ds).length ≤ point) :
    readNumber digits negative (positionalText (d :: ds) point ++ cs) =
      .ok (.float (ofDecimal negative (Nat.ofDigitChars 10 (d :: ds) 0) (point - (d :: ds).length)), cs) := by
  obtain ⟨k, rfl⟩ : ∃ k : Nat, point = (d :: ds).length + k :=
    ⟨(point - (d :: ds).length).toNat, by omega⟩
  have hwhole : IsWhole (d :: ds ++ List.replicate k '0') :=
    .digits hd (List.forall_mem_append.2 ⟨hds, isDigit_of_mem_zeros⟩)
  have hread := readNumber_places digits hwhole (List.cons_ne_nil '0' [])
    (List.forall_mem_singleton.2 rfl) hcs negative
  have hcoefficient : Nat.ofDigitChars 10 (d :: ds ++ List.replicate k '0' ++ ['0']) 0 =
      Nat.ofDigitChars 10 (d :: ds) 0 * 10 ^ (k + 1) := by
    rw [List.append_assoc, ← List.replicate_succ', ofDigitChars_append_zeros]
  have hexponent : (-(['0'].length : Nat) : Int) =
      (d :: ds).length + k - (d :: ds).length - (k + 1 : Nat) := by
    rw [List.length_singleton]
    omega
  rw [hcoefficient, hexponent, ofDecimal_mul_pow] at hread
  rw [positionalText_of_le (List.cons_ne_nil d ds)]
  exact hread

/-- The point stands between digits. -/
theorem readNumber_positionalText_of_lt (hd : d ≠ '0') {point : Int} (hpos : 0 < point)
    (hpoint : point < (d :: ds).length) :
    readNumber digits negative (positionalText (d :: ds) point ++ cs) =
      .ok (.float (ofDecimal negative (Nat.ofDigitChars 10 (d :: ds) 0) (point - (d :: ds).length)), cs) := by
  obtain ⟨m, rfl⟩ : ∃ m : Nat, point = (m + 1 : Nat) := ⟨(point - 1).toNat, by omega⟩
  have hm : m + 1 < (d :: ds).length := by omega
  have hwhole : IsWhole ((d :: ds).take (m + 1)) :=
    .digits hd fun c hc => hds c (List.mem_of_mem_take (i := m + 1) hc)
  have hne : (d :: ds).drop (m + 1) ≠ [] := fun hnil => Nat.not_le.2 hm (List.drop_eq_nil_iff.1 hnil)
  have hplaces : ∀ c ∈ (d :: ds).drop (m + 1), c.isDigit := fun c hc => hds c (List.mem_of_mem_drop hc)
  have hread := readNumber_places digits hwhole hne hplaces hcs negative
  have hexponent : -(((d :: ds).drop (m + 1)).length : Int) = (m + 1 : Nat) - (d :: ds).length := by
    rw [List.length_drop]
    omega
  rw [List.take_append_drop, hexponent] at hread
  rw [positionalText_of_lt m.succ_pos hm]
  exact hread

/-- Positional notation is read as the decimal that it writes. -/
theorem readNumber_positionalText (hd : d ≠ '0') (point : Int) :
    readNumber digits negative (positionalText (d :: ds) point ++ cs) =
      .ok (.float (ofDecimal negative (Nat.ofDigitChars 10 (d :: ds) 0) (point - (d :: ds).length)), cs) := by
  rcases le_or_gt point 0 with hnonpos | hpos
  · exact readNumber_positionalText_of_nonpos digits hds hcs negative hnonpos
  · rcases le_or_gt ((d :: ds).length : Int) point with hle | hlt
    · exact readNumber_positionalText_of_le digits hds hcs negative hd hle
    · exact readNumber_positionalText_of_lt digits hds hcs negative hd hpos hlt

/-- So is a text with an exponent. -/
theorem readNumber_scientificText (point : Int) :
    readNumber digits negative (scientificText (d :: ds) point ++ cs) =
      .ok (.float (ofDecimal negative (Nat.ofDigitChars 10 (d :: ds) 0) (point - (d :: ds).length)), cs) := by
  obtain ⟨hd, hrest⟩ := List.forall_mem_cons.1 hds
  have hread := readNumber_exponent digits (isWhole_singleton hd) hrest (point - 1) hcs negative
  have htext : scientificText (d :: ds) point =
      [d] ++ (if ds = [] then [] else '.' :: ds) ++ exponentText (point - 1) := by
    cases ds <;> rfl
  have hexponent : point - 1 - (ds.length : Int) = point - (d :: ds).length := by
    rw [List.length_cons]
    omega
  rw [List.singleton_append (l := ds), hexponent] at hread
  rw [htext]
  exact hread

end

/-- The text of a finite number is read as that number. -/
theorem readNumber_finiteText (negative : Bool) (e : Fin 2047) (f : Fin (Nat.pow 2 52)) {cs : List Char}
    (hcs : Ends cs) :
    readNumber digits negative (finiteText false e f ++ cs) = .ok (.float (.finite negative e f), cs) := by
  have hvalue := ofSigned_shortest negative e f
  obtain ⟨n, hn⟩ : ∃ n, n = (shortest e f).coefficient := ⟨_, rfl⟩
  have htext : finiteText false e f =
      if n = 0 then ['0', '.', '0']
      else if positional (shortest e f).pointPosition then
        positionalText (Nat.toDigits 10 n) (shortest e f).pointPosition
      else scientificText (Nat.toDigits 10 n) (shortest e f).pointPosition := by
    rw [hn]
    rfl
  rw [ofSigned, ← hn] at hvalue
  rw [htext]
  split
  · next hzero =>
    rw [hzero, ofDecimal_zero] at hvalue
    have hread := readNumber_places digits .zero (List.cons_ne_nil '0' [])
      (List.forall_mem_singleton.2 rfl) hcs negative
    have hnumber : Nat.ofDigitChars 10 (['0'] ++ ['0']) 0 = 0 := rfl
    rw [hnumber, ofDecimal_zero, hvalue] at hread
    exact hread
  · next hpos =>
    have hpoint : (shortest e f).pointPosition - (Nat.toDigits 10 n).length = (shortest e f).exponent := by
      rw [Decimal.pointPosition, Decimal.digits, ← hn]
      omega
    have hdigits := isDigit_of_mem_toDigits (n := n)
    have hnumber := Nat.ofDigitChars_ten_toDigits (n := n)
    cases hds : Nat.toDigits 10 n with
    | nil => exact absurd hds Nat.toDigits_ne_nil
    | cons d ds =>
      have hd : d ≠ '0' := by
        rintro rfl
        exact hpos (eq_zero_of_toDigits_eq_cons hds)
      rw [hds] at hpoint hdigits hnumber
      have hresult : ofDecimal negative (Nat.ofDigitChars 10 (d :: ds) 0)
          ((shortest e f).pointPosition - (d :: ds).length) = .finite negative e f := by
        rw [hnumber, hpoint, hvalue]
      rw [← hresult]
      split
      · exact readNumber_positionalText digits hdigits hcs negative hd _
      · exact readNumber_scientificText digits hdigits hcs negative _

variable {digits}

/-- What is read as a number begins with a digit. -/
theorem isDigit_of_readNumber {negative : Bool} {cs : List Char} {r : Json × List Char}
    (h : readNumber digits negative cs = .ok r) : ∃ d ds, cs = d :: ds ∧ d.isDigit := by
  rw [readNumber] at h
  cases hwhole : wholePart? cs with
  | none =>
    rw [hwhole] at h
    cases h
  | some w =>
    unfold wholePart? at hwhole
    split at hwhole
    · exact ⟨'0', _, rfl, rfl⟩
    · next c cs _ =>
      split at hwhole
      · next hc => exact ⟨c, cs, rfl, hc⟩
      · cases hwhole
    · cases hwhole

/-- Every float reads back, those that are not finite by their words. -/
theorem readsBack_float {limits : Limits} (x : Binary64) : ReadsBack limits (.float x) := by
  cases x with
  | nan => exact ⟨⟨_, _, rfl, rfl, by decide⟩, fun _ _ => rfl⟩
  | infinite negative =>
    cases negative with
    | false => exact ⟨⟨_, _, rfl, rfl, by decide⟩, fun _ _ => rfl⟩
    | true => exact ⟨⟨_, _, rfl, rfl, by decide⟩, fun _ _ => rfl⟩
  | finite negative e f =>
    have hread (negative : Bool) {cs : List Char} (hcs : Ends cs) :=
      readNumber_finiteText limits.digits negative e f hcs
    have hends : Ends [] := by rintro c ⟨⟩
    obtain ⟨d, ds, htext, hd⟩ := isDigit_of_readNumber (hread negative hends)
    rw [List.append_nil] at htext
    cases negative with
    | false =>
      have hchars : chars (.float (.finite false e f)) = d :: ds :=
        (String.toList_ofList).trans htext
      refine ⟨⟨d, ds, hchars, isSpace_eq_false_of_isDigit hd⟩, fun {fuel cs} _ hcs => ?_⟩
      rw [hchars, List.cons_append, readValue_digit hd, ← List.cons_append, ← htext]
      exact hread false hcs
    | true =>
      have hchars : chars (.float (.finite true e f)) = '-' :: d :: ds :=
        (String.toList_ofList).trans (congrArg ('-' :: ·) htext)
      refine ⟨⟨'-', _, hchars, rfl, by decide⟩, fun {fuel cs} _ hcs => ?_⟩
      rw [hchars, List.cons_append, List.cons_append, readValue_minus hd, ← List.cons_append, ← htext]
      exact hread true hcs

end Json

end TraceGraph
