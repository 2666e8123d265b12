import TraceGraph.Proofs.FloatText
import TraceGraph.Text.Lines

/-! The text of a whole value. It consists of printable ASCII characters, so that no character of it breaks a
line. A value is written if its nesting and its integers keep within the bounds of the writer, and a reader
with the same bounds gives it back if in every object the keys are distinct. -/

namespace TraceGraph

/-! ### Printable ASCII -/

/-- A printable ASCII character. -/
def Text.IsPlain (c : Char) : Prop := 0x20 ≤ c.toNat ∧ c.toNat < 0x7f

namespace Text

instance (c : Char) : Decidable (IsPlain c) := inferInstanceAs (Decidable (_ ∧ _))

theorem isPlain_of_all {cs : List Char} (h : cs.all (IsPlain ·)) : ∀ c ∈ cs, IsPlain c :=
  fun c hc => of_decide_eq_true (List.all_eq_true.1 h c hc)

theorem isLineBreak_eq_false {c : Char} (h : IsPlain c) : isLineBreak c = false := by
  obtain ⟨hlow, hhigh⟩ := h
  simp only [isLineBreak, Bool.or_eq_false_iff, Bool.and_eq_false_iff, decide_eq_false_iff_not]
  omega

theorem isPlain_of_isDigit {c : Char} (h : c.isDigit) : IsPlain c := by
  simp only [Char.isDigit, ge_iff_le, Bool.and_eq_true, decide_eq_true_eq, UInt32.le_iff_toNat_le] at h
  exact ⟨Nat.le_trans (by decide) h.1, Nat.lt_of_le_of_lt h.2 (by decide)⟩

theorem isPlain_hexDigit (n : Nat) : IsPlain (hexDigit n) := by
  have hdigits : ∀ c ∈ "0123456789abcdef".toList, IsPlain c := isPlain_of_all (by decide)
  rw [hexDigit, List.getD_eq_getElem?_getD]
  cases hn : "0123456789abcdef".toList[n]? with
  | none => decide
  | some c => exact hdigits c (List.mem_of_getElem? hn)

theorem isPlain_of_mem_hex {width n : Nat} : ∀ c ∈ hex width n, IsPlain c := by
  induction width generalizing n with
  | zero => exact List.forall_mem_nil _
  | succ width ih =>
    rw [hex]
    exact List.forall_mem_append.2 ⟨ih, List.forall_mem_singleton.2 (isPlain_hexDigit _)⟩

end Text

namespace Json

open Text Numeral Binary64

theorem isPlain_of_mem_toDigits {n : Nat} : ∀ c ∈ Nat.toDigits 10 n, IsPlain c :=
  fun c hc => isPlain_of_isDigit (isDigit_of_mem_toDigits c hc)

theorem isPlain_of_mem_unitEscape {n : Nat} : ∀ c ∈ unitEscape n, IsPlain c :=
  List.forall_mem_cons.2 ⟨by decide, List.forall_mem_cons.2 ⟨by decide, isPlain_of_mem_hex⟩⟩

theorem isPlain_of_mem_escapeChar {c : Char} : ∀ d ∈ escapeChar c, IsPlain d := by
  rw [escapeChar]
  split_ifs with _ _ _ _ _ _ _ hplain
  all_goals try exact isPlain_of_all (by decide)
  · exact List.forall_mem_singleton.2 hplain
  · exact isPlain_of_mem_unitEscape
  · exact List.forall_mem_append.2 ⟨isPlain_of_mem_unitEscape, isPlain_of_mem_unitEscape⟩

/-- Quotes around escapes. -/
theorem isPlain_of_mem_quotes {α : Type} {escape : α → List Char} (h : ∀ a, ∀ c ∈ escape a, IsPlain c)
    (as : List α) : ∀ c ∈ '"' :: (as.flatMap escape ++ ['"']), IsPlain c := by
  refine List.forall_mem_cons.2 ⟨by decide, List.forall_mem_append.2
    ⟨fun c hc => ?_, List.forall_mem_singleton.2 (by decide)⟩⟩
  obtain ⟨a, -, ha⟩ := List.mem_flatMap.1 hc
  exact h a c ha

theorem isPlain_of_mem_writeText (s : String) : ∀ c ∈ writeText s, IsPlain c :=
  isPlain_of_mem_quotes (fun _ => isPlain_of_mem_escapeChar) s.toList

theorem isPlain_of_mem_writePoints (ps : List CodePoint) : ∀ c ∈ writePoints ps, IsPlain c := by
  refine isPlain_of_mem_quotes (fun p => ?_) ps
  cases p with
  | char c => exact isPlain_of_mem_escapeChar
  | half n => exact isPlain_of_mem_unitEscape

theorem isPlain_of_mem_positionalText {ds : List Char} (hds : ∀ c ∈ ds, IsPlain c) (point : Int) :
    ∀ c ∈ positionalText ds point, IsPlain c := by
  have hzeros {k : Nat} : ∀ c ∈ List.replicate k '0', IsPlain c :=
    fun c hc => isPlain_of_isDigit (isDigit_of_mem_zeros c hc)
  rw [positionalText]
  split
  · simp only [List.forall_mem_cons, List.forall_mem_append]
    exact ⟨by decide, by decide, hzeros, hds⟩
  · simp only [List.forall_mem_cons, List.forall_mem_append]
    refine ⟨⟨fun c hc => hds c (List.mem_of_mem_take hc), hzeros⟩, by decide, ?_⟩
    split
    · exact isPlain_of_all (by decide)
    · exact fun c hc => hds c (List.mem_of_mem_drop hc)

theorem isPlain_of_mem_exponentText (e : Int) : ∀ c ∈ exponentText e, IsPlain c := by
  have hdigits : ∀ c ∈ exponentDigits e.natAbs, IsPlain c :=
    fun c hc => isPlain_of_isDigit (isDigit_of_mem_exponentDigits c hc)
  rw [exponentText_eq]
  refine List.forall_mem_cons.2 ⟨by decide, List.forall_mem_cons.2 ⟨?_, hdigits⟩⟩
  split <;> decide

theorem isPlain_of_mem_scientificText {ds : List Char} (hds : ∀ c ∈ ds, IsPlain c) (point : Int) :
    ∀ c ∈ scientificText ds point, IsPlain c := by
  refine List.forall_mem_append.2 ⟨?_, isPlain_of_mem_exponentText _⟩
  split
  · exact hds
  · exact hds
  · simp only [List.forall_mem_cons] at hds ⊢
    exact ⟨hds.1, by decide, hds.2⟩

theorem isPlain_of_mem_finiteText (negative : Bool) (e : Fin 2047) (f : Fin (Nat.pow 2 52)) :
    ∀ c ∈ finiteText negative e f, IsPlain c := by
  have hunsigned : ∀ c ∈ finiteText false e f, IsPlain c := by
    simp only [finiteText, Bool.false_eq_true, if_false]
    split_ifs
    · exact isPlain_of_all (by decide)
    · exact isPlain_of_mem_positionalText isPlain_of_mem_toDigits _
    · exact isPlain_of_mem_scientificText isPlain_of_mem_toDigits _
  cases negative with
  | false => exact hunsigned
  | true => exact List.forall_mem_cons.2 ⟨by decide, hunsigned⟩

theorem isPlain_of_mem_writeFloat (x : Binary64) : ∀ c ∈ writeFloat x, IsPlain c := by
  cases x with
  | nan => exact isPlain_of_all (by decide)
  | infinite negative => cases negative <;> exact isPlain_of_all (by decide)
  | finite negative e f =>
    have htext : writeFloat (.finite negative e f) = finiteText negative e f := String.toList_ofList
    rw [htext]
    exact isPlain_of_mem_finiteText negative e f

theorem isPlain_of_mem_int (n : Int) : ∀ c ∈ chars (.int n), IsPlain c := by
  rw [chars_int]
  split
  · exact List.forall_mem_cons.2 ⟨by decide, isPlain_of_mem_toDigits⟩
  · exact isPlain_of_mem_toDigits

mutual

/-- The text of a value is in printable ASCII. -/
theorem isPlain_of_mem_chars (v : Json) : ∀ c ∈ chars v, IsPlain c := by
  cases v with
  | null => exact isPlain_of_all (by decide)
  | bool b => cases b <;> exact isPlain_of_all (by decide)
  | int n => exact isPlain_of_mem_int n
  | float x => exact isPlain_of_mem_writeFloat x
  | text s => exact isPlain_of_mem_writeText s
  | illFormed t => exact isPlain_of_mem_writePoints t.points
  | list vs =>
    cases vs with
    | nil => exact isPlain_of_all (by decide)
    | cons v vs =>
      simp only [chars, List.forall_mem_cons, List.forall_mem_append]
      exact ⟨by decide, isPlain_of_mem_chars v, isPlain_of_mem_charsItems vs, by decide,
        List.forall_mem_nil _⟩
  | object ms =>
    cases ms with
    | nil => exact isPlain_of_all (by decide)
    | cons m ms =>
      obtain ⟨k, v⟩ := m
      simp only [chars, List.forall_mem_cons, List.forall_mem_append]
      exact ⟨by decide, isPlain_of_mem_writeText k, by decide, by decide, isPlain_of_mem_chars v,
        isPlain_of_mem_charsMembers ms, by decide, List.forall_mem_nil _⟩

theorem isPlain_of_mem_charsItems (vs : List Json) : ∀ c ∈ charsItems vs, IsPlain c := by
  cases vs with
  | nil => exact List.forall_mem_nil _
  | cons v vs =>
    simp only [charsItems, List.forall_mem_cons, List.forall_mem_append]
    exact ⟨by decide, by decide, isPlain_of_mem_chars v, isPlain_of_mem_charsItems vs⟩

theorem isPlain_of_mem_charsMembers (ms : List (String × Json)) : ∀ c ∈ charsMembers ms, IsPlain c := by
  cases ms with
  | nil => exact List.forall_mem_nil _
  | cons m ms =>
    obtain ⟨k, v⟩ := m
    simp only [charsMembers, List.forall_mem_cons, List.forall_mem_append]
    exact ⟨by decide, by decide, isPlain_of_mem_writeText k, by decide, by decide, isPlain_of_mem_chars v,
      isPlain_of_mem_charsMembers ms⟩

end

/-! ### Values read back -/

mutual

/-- The integers in a value. -/
def integers : Json → List Int
  | int n => [n]
  | list items => integersItems items
  | object members => integersMembers members
  | _ => []

def integersItems : List Json → List Int
  | [] => []
  | v :: vs => integers v ++ integersItems vs

def integersMembers : List (String × Json) → List Int
  | [] => []
  | (_, v) :: ms => integers v ++ integersMembers ms

end

mutual

/-- How deep lists and objects are nested in a value. -/
def depth : Json → Nat
  | list items => depthItems items + 1
  | object members => depthMembers members + 1
  | _ => 0

def depthItems : List Json → Nat
  | [] => 0
  | v :: vs => max (depth v) (depthItems vs)

def depthMembers : List (String × Json) → Nat
  | [] => 0
  | (_, v) :: ms => max (depth v) (depthMembers ms)

end

variable {limits : Limits}

theorem obstacle?_int_eq_none_iff {n : Int} :
    obstacle? limits (.int n) = none ↔ Fits limits.digits n := by
  by_cases h : Fits limits.digits n
  · simp [obstacle?, decimal_of_fits h, h]
  · obtain ⟨limit, -, hlimit⟩ := decimal_of_not_fits h
    simp [obstacle?, hlimit, h]

/-- A part may be nested as deep as the bounds inside admit. -/
theorem succ_le_levels_iff {k : Nat} :
    (∀ l ∈ limits.levels, k + 1 ≤ l) ↔ limits.levels ≠ some 0 ∧ ∀ l ∈ limits.inner.levels, k ≤ l := by
  rw [Limits.inner]
  cases limits.levels with
  | none => simp
  | some l =>
    cases l with
    | zero => simp
    | succ l => simp

theorem ite_levels_eq_none_iff {o : Option WriteError} :
    (if limits.levels = some 0 then some .deep else o) = none ↔ limits.levels ≠ some 0 ∧ o = none := by
  split
  · next h => simp [h]
  · next h => simp [h]

mutual

/-- A value is written if it is nested no deeper than the bounds admit, and all its integers fit. -/
theorem obstacle?_eq_none_iff (limits : Limits) (v : Json) :
    obstacle? limits v = none ↔
      (∀ l ∈ limits.levels, depth v ≤ l) ∧ ∀ n ∈ integers v, Fits limits.digits n := by
  cases v with
  | int n => rw [obstacle?_int_eq_none_iff]; simp [depth, integers]
  | list vs =>
    rw [obstacle?, ite_levels_eq_none_iff, obstacleItems?_eq_none_iff, depth, integers, succ_le_levels_iff,
      and_assoc]
    rfl
  | object ms =>
    rw [obstacle?, ite_levels_eq_none_iff, obstacleMembers?_eq_none_iff, depth, integers, succ_le_levels_iff,
      and_assoc]
    rfl
  | null => simp [obstacle?, depth, integers]
  | bool b => simp [obstacle?, depth, integers]
  | float x => simp [obstacle?, depth, integers]
  | text s => simp [obstacle?, depth, integers]
  | illFormed t => simp [obstacle?, depth, integers]

theorem obstacleItems?_eq_none_iff (limits : Limits) (vs : List Json) :
    obstacleItems? limits vs = none ↔
      (∀ l ∈ limits.levels, depthItems vs ≤ l) ∧ ∀ n ∈ integersItems vs, Fits limits.digits n := by
  cases vs with
  | nil => simp [obstacleItems?, depthItems, integersItems]
  | cons v vs =>
    rw [obstacleItems?, Option.or_eq_none_iff, obstacle?_eq_none_iff limits v, obstacleItems?_eq_none_iff limits vs,
      depthItems, integersItems, List.forall_mem_append]
    simp only [Nat.max_le, forall_and]
    exact and_and_and_comm

theorem obstacleMembers?_eq_none_iff (limits : Limits) (ms : List (String × Json)) :
    obstacleMembers? limits ms = none ↔
      (∀ l ∈ limits.levels, depthMembers ms ≤ l) ∧ ∀ n ∈ integersMembers ms, Fits limits.digits n := by
  cases ms with
  | nil => simp [obstacleMembers?, depthMembers, integersMembers]
  | cons m ms =>
    obtain ⟨k, v⟩ := m
    rw [obstacleMembers?, Option.or_eq_none_iff, obstacle?_eq_none_iff limits v,
      obstacleMembers?_eq_none_iff limits ms, depthMembers, integersMembers, List.forall_mem_append]
    simp only [Nat.max_le, forall_and]
    exact and_and_and_comm

end

theorem obstacle?_of_unbounded_levels {v : Json} (h : obstacle? limits v = none) :
    obstacle? ⟨none, limits.digits⟩ v = none :=
  (obstacle?_eq_none_iff _ v).2 ⟨nofun, ((obstacle?_eq_none_iff limits v).1 h).2⟩

theorem writeWithin_eq_ok_iff {v : Json} {s : String} :
    v.writeWithin limits = .ok s ↔ v.obstacle? limits = none ∧ v.write = s := by
  rw [writeWithin]
  cases v.obstacle? limits <;> simp

mutual

/-- Every value that is written reads back, if its objects have distinct keys. -/
theorem readsBack {limits : Limits} (v : Json) (hkeys : distinctKeys v) (h : obstacle? limits v = none) :
    ReadsBack limits v := by
  cases v with
  | null => exact readsBack_null
  | bool b => exact readsBack_bool b
  | int n => exact readsBack_int (obstacle?_int_eq_none_iff.1 h)
  | float x => exact readsBack_float x
  | text s => exact readsBack_text s
  | illFormed t => exact readsBack_illFormed t
  | list vs =>
    obtain ⟨hlevels, hitems⟩ := ite_levels_eq_none_iff.1 h
    exact readsBack_list hlevels (readsBack_items vs hkeys hitems)
  | object ms =>
    obtain ⟨hlevels, hmembers⟩ := ite_levels_eq_none_iff.1 h
    obtain ⟨hnodup, hvalues⟩ := Bool.and_eq_true_iff.1 hkeys
    exact readsBack_object hlevels (of_decide_eq_true hnodup) (readsBack_members ms hvalues hmembers)

theorem readsBack_items {limits : Limits} (vs : List Json) (hkeys : distinctKeysItems vs)
    (h : obstacleItems? limits vs = none) : ∀ v ∈ vs, ReadsBack limits v := by
  cases vs with
  | nil => exact List.forall_mem_nil _
  | cons v vs =>
    obtain ⟨hv, hvs⟩ := Bool.and_eq_true_iff.1 hkeys
    obtain ⟨hfirst, hrest⟩ := Option.or_eq_none_iff.1 h
    exact List.forall_mem_cons.2 ⟨readsBack v hv hfirst, readsBack_items vs hvs hrest⟩

theorem readsBack_members {limits : Limits} (ms : List (String × Json)) (hkeys : distinctKeysMembers ms)
    (h : obstacleMembers? limits ms = none) : ∀ m ∈ ms, ReadsBack limits m.2 := by
  cases ms with
  | nil => exact List.forall_mem_nil _
  | cons m ms =>
    obtain ⟨k, v⟩ := m
    obtain ⟨hv, hms⟩ := Bool.and_eq_true_iff.1 hkeys
    obtain ⟨hfirst, hrest⟩ := Option.or_eq_none_iff.1 h
    exact List.forall_mem_cons.2 ⟨readsBack v hv hfirst, readsBack_members ms hms hrest⟩

end

end Json

end TraceGraph
