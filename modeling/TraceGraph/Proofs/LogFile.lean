import TraceGraph.Log.Line
import TraceGraph.Proofs.Sequence
import TraceGraph.Proofs.Values

/-! The log file, read line by line. A call has a line if its time is on the calendar, its message takes its
arguments, and what it tells keeps within the bounds of the writer. The line is an object in printable ASCII
that tells the level, logger, message and context of the call, but for halves in the message that make a
pair: they are read as its character. As no character of it breaks a line, the lines of the file are those of
the calls, one for each and in their order; a call without a line leaves no trace. -/

namespace TraceGraph

namespace Text

/-! ### Lines -/

theorem lines_cons {c : Char} (h : isLineBreak c = false) (cs : List Char) :
    lines (c :: cs) = match lines cs with
      | [] => [[c]]
      | l :: ls => (c :: l) :: ls := by
  have hne : c ≠ '\r' := by
    rintro rfl
    cases h
  refine (lines.eq_3 c cs fun _ hc _ => hne hc).trans (if_neg ?_)
  rw [h]
  exact Bool.false_ne_true

/-- Characters that break no line, up to a line feed, are one line. -/
theorem lines_append {l : List Char} (h : ∀ c ∈ l, isLineBreak c = false) (rest : List Char) :
    lines (l ++ '\n' :: rest) = l :: lines rest := by
  induction l with
  | nil => rfl
  | cons c l ih =>
    obtain ⟨hc, hl⟩ := List.forall_mem_cons.1 h
    rw [List.cons_append, lines_cons hc, ih hl]

end Text

namespace Json

open Text (CodePoint)

/-- Whether a value is the text of the given code points. -/
def IsTextOf (ps : List CodePoint) : Json → Prop
  | text s => Text.codePoints s = ps
  | illFormed t => t.points = ps
  | _ => False

theorem isTextOf_ofCodePoints {ps : List CodePoint} (h : CodePoint.isJoined ps) :
    IsTextOf ps (ofCodePoints ps) := by
  rw [ofCodePoints]
  split
  · rfl
  · next hnone =>
    have hchars : ∀ p ∈ ps, ∃ c, p = .char c := by
      intro p hp
      cases p with
      | char c => exact ⟨c, rfl⟩
      | half n => exact absurd ⟨List.any_eq_true.2 ⟨_, hp, rfl⟩, h⟩ hnone
    have hshown : ∀ p ∈ ps, CodePoint.char p.shown = p := by
      intro p hp
      obtain ⟨c, rfl⟩ := hchars p hp
      rfl
    rw [IsTextOf, Text.codePoints, CodePoint.text, String.toList_ofList, List.map_map]
    exact (List.map_congr_left hshown).trans (List.map_id ps)

theorem IsTextOf.unique {ps qs : List CodePoint} {v : Json} (h : IsTextOf ps v) (h' : IsTextOf qs v) : ps = qs := by
  cases v with
  | text s => exact h.symm.trans h'
  | illFormed t => exact h.symm.trans h'
  | null | bool | int | float | list | object => exact h.elim

theorem IsTextOf.chars_eq {ps : List CodePoint} {v : Json} (h : IsTextOf ps v) : v.chars = writePoints ps := by
  cases v with
  | text s =>
    have hps : ps = s.toList.map .char := h.symm
    rw [hps, writePoints, List.flatMap_map]
    rfl
  | illFormed t =>
    obtain rfl : t.points = ps := h
    rfl
  | null | bool | int | float | list | object => exact h.elim

/-- Putting the halves of pairs together leaves the text of a line as it is. -/
theorem chars_ofCodePoints_join (ps : List CodePoint) :
    (ofCodePoints (CodePoint.join ps)).chars = writePoints ps := by
  rw [(isTextOf_ofCodePoints (CodePoint.isJoined_join ps)).chars_eq, writePoints, flatMap_escapePoint_join,
    writePoints]

end Json

namespace Log

open Sequence
open Text (CodePoint)

/-! ### Times on the calendar -/

/-- The day on which a point in time lies. -/
def Instant.date (i : Instant) : Date := Date.ofDay (i.seconds / 86400)

/-- The calendar has the years that are written with four digits. -/
theorem Instant.exists_text_iff {i : Instant} : (∃ s, i.text = .ok s) ↔ 1 ≤ i.date.year ∧ i.date.year ≤ 9999 := by
  have hyear : (Date.ofDay (i.seconds / 86400)).year = i.date.year := rfl
  simp only [text, hyear]
  split
  · next h => simpa using by omega
  · split
    · next h => simpa using by omega
    · next h => simpa using by omega

namespace Call

variable {c : Call}

/-- What a call needs for a line: a time on the calendar, a message that takes its arguments, a line number
and a context that can be written, and a level of nesting for the object around the context. -/
structure Writable (c : Call) : Prop where
  time : ∃ i, Instant.ofNumber c.created = .ok i ∧ 1 ≤ i.date.year ∧ i.date.year ≤ 9999
  message : ∃ ps, Message.format c.message c.args = .ok ps
  line : Numeral.IsReadable c.line
  levels : 0 < c.levels
  context : ∀ v ∈ c.context, v.depth < c.levels ∧ ∀ n ∈ v.integers, Numeral.IsReadable n

/-- Members that tell of a call. The halves of a pair are read as its character, so the message is told code
point by code point exactly if no such halves stand together in it; they never do without arguments. -/
structure Told (c : Call) (v : Json) : Prop where
  level : v.member? "level" = some (.text c.levelName)
  logger : v.member? "logger" = some (.text c.logger)
  message : ∃ ps m, Message.format c.message c.args = .ok ps ∧ v.member? "message" = some m ∧
    m.IsTextOf (CodePoint.join ps) ∧ (m.IsTextOf ps ↔ CodePoint.isJoined ps)
  plainMessage : c.args = [] → v.member? "message" = some (.text c.message)
  context : ∀ w, c.context = some w → w ≠ .null → v.member? "context" = some w
  noContext : c.context = none ∨ c.context = some .null → v.member? "context" = none

/-- A line that tells of a call, as one object. A reader with the bounds of the writer reads it, and so does
one whose nesting is not bounded. -/
structure ToldBy (c : Call) (line : String) : Prop where
  format : c.format = .ok line
  plain : ∀ ch ∈ line.toList, Text.IsPlain ch
  unbroken : ∀ ch ∈ line.toList, Text.isLineBreak ch = false
  reads : ∃ ms, c.Told (.object ms) ∧ Json.readBounded c.limits line = .ok (.object ms) ∧
    Json.read line = .ok (.object ms)

/-! ### What is told -/

theorem context?_eq_some {v : Json} (h : c.context = some v) (hnull : v ≠ .null) : c.context? = some v := by
  rw [context?, h]
  cases v with
  | null => exact absurd rfl hnull
  | bool | int | float | text | illFormed | list | object => rfl

theorem context?_eq_none (h : c.context = none ∨ c.context = some .null) : c.context? = none := by
  rcases h with h | h <;> rw [context?, h]

theorem forall_mem_context?_iff {P : Json → Prop} (hnull : P .null) :
    (∀ v ∈ c.context?, P v) ↔ ∀ v ∈ c.context, P v := by
  rw [context?]
  split
  · next h => simp [h, hnull]
  · rfl

theorem nodup_fields (timestamp : String) (message : Json) :
    ((c.fields timestamp message).map Prod.fst).Nodup := by
  rw [fields]
  cases c.exception <;> cases c.context? <;> simp

theorem distinctKeys_fields (hkeys : ∀ v ∈ c.context?, v.distinctKeys) (timestamp : String)
    (ps : List CodePoint) : Json.distinctKeysMembers (c.fields timestamp (.ofCodePoints ps)) := by
  have hmessage : (Json.ofCodePoints ps).distinctKeys := by
    rw [Json.ofCodePoints]
    split <;> rfl
  rw [fields]
  cases c.exception <;> cases hcontext : c.context? <;>
    simp_all [Json.distinctKeysMembers, Json.distinctKeys]

/-- Only the context can go beyond the bounds. -/
theorem obstacleMembers?_fields {limits : Json.Limits} (timestamp : String) (ps : List CodePoint) :
    Json.obstacleMembers? limits (c.fields timestamp (.ofCodePoints ps)) =
      c.context?.bind (·.obstacle? limits) := by
  have hmessage : (Json.ofCodePoints ps).obstacle? limits = none := by
    rw [Json.ofCodePoints]
    split <;> rfl
  rw [fields]
  cases c.exception <;> cases c.context? <;>
    simp [Json.obstacleMembers?, Json.obstacle?, hmessage]

theorem obstacle?_fields_eq_none_iff (timestamp : String) (ps : List CodePoint) :
    (Json.object (c.fields timestamp (.ofCodePoints ps))).obstacle? c.limits = none ↔
      0 < c.levels ∧ ∀ v ∈ c.context, v.depth < c.levels ∧ ∀ n ∈ v.integers, Numeral.IsReadable n := by
  have hpos : c.limits.levels ≠ some 0 ↔ 0 < c.levels := by
    rw [limits, ne_eq, Option.some_inj, ← ne_eq, ← Nat.pos_iff_ne_zero]
  have hcontext : c.context?.bind (·.obstacle? c.limits.inner) = none ↔
      ∀ v ∈ c.context, v.obstacle? c.limits.inner = none :=
    Option.bind_eq_none_iff.trans (forall_mem_context?_iff (P := fun v => v.obstacle? _ = none) rfl)
  rw [Json.obstacle?, Json.ite_levels_eq_none_iff, obstacleMembers?_fields, hcontext, hpos]
  refine and_congr_right fun hlevels => forall₂_congr fun v _ => ?_
  rw [Json.obstacle?_eq_none_iff]
  refine and_congr ?_ (forall₂_congr fun n _ => Numeral.fits_digitLimit_iff)
  simp only [limits, Json.Limits.inner, Option.map_some, Option.mem_some_iff, forall_eq', Nat.pred_eq_sub_one]
  exact Nat.le_sub_one_iff_lt hlevels

theorem told_fields (timestamp : String) {ps : List CodePoint}
    (hmessage : Message.format c.message c.args = .ok ps) :
    c.Told (.object (c.fields timestamp (.ofCodePoints (CodePoint.join ps)))) := by
  have htext : Json.IsTextOf (CodePoint.join ps) (.ofCodePoints (CodePoint.join ps)) :=
    Json.isTextOf_ofCodePoints (CodePoint.isJoined_join ps)
  have hmember : (Json.object (c.fields timestamp (.ofCodePoints (CodePoint.join ps)))).member? "context" =
      c.context? := by
    rw [fields]
    cases c.exception <;> cases c.context? <;> rfl
  refine ⟨rfl, rfl, ⟨ps, _, hmessage, rfl, htext, ?_⟩, fun hargs => ?_, fun w hw hnull => ?_, fun hnone => ?_⟩
  · rw [← CodePoint.join_eq_self_iff]
    refine ⟨fun h => htext.unique h, fun h => ?_⟩
    rwa [h] at htext ⊢
  · have hps : ps = Text.codePoints c.message :=
      Except.ok.inj (hmessage.symm.trans (by rw [hargs]; rfl))
    rw [hps, CodePoint.join_eq_self (CodePoint.isJoined_codePoints c.message), Json.ofCodePoints_codePoints]
    rfl
  · rw [hmember, context?_eq_some hw hnull]
  · rw [hmember, context?_eq_none hnone]

/-! ### Lines -/

theorem exists_timestamp_iff : (∃ timestamp, (Instant.ofNumber c.created).bind Instant.text = .ok timestamp) ↔
    ∃ i, Instant.ofNumber c.created = .ok i ∧ 1 ≤ i.date.year ∧ i.date.year ≤ 9999 := by
  cases Instant.ofNumber c.created with
  | error e => simp [Except.bind]
  | ok i => simp [Except.bind, Instant.exists_text_iff]

theorem entry_eq_ok_iff {v : Json} : c.entry = .ok v ↔
    ∃ timestamp, (Instant.ofNumber c.created).bind Instant.text = .ok timestamp ∧
      ∃ ps, Message.format c.message c.args = .ok ps ∧
        .object (c.fields timestamp (.ofCodePoints (CodePoint.join ps))) = v := by
  simp only [entry, bind_eq_ok_iff, mapError_eq_ok_iff, pure, Except.pure, Except.ok.injEq]

theorem format_eq_ok_iff {line : String} : c.format = .ok line ↔
    ∃ v, c.entry = .ok v ∧ Numeral.IsReadable c.line ∧ v.obstacle? c.limits = none ∧ v.write = line := by
  simp only [format, bind_eq_ok_iff, mapError_eq_ok_iff, Numeral.decimal_eq_ok_iff, Json.writeWithin_eq_ok_iff,
    limits, Numeral.fits_digitLimit_iff, exists_and_left, exists_eq_left', and_assoc]

/-- The calls with a line are those that have all it needs. -/
theorem exists_format_iff : (∃ line, c.format = .ok line) ↔ c.Writable := by
  constructor
  · rintro ⟨line, h⟩
    obtain ⟨v, hentry, hline, hobstacle, -⟩ := format_eq_ok_iff.1 h
    obtain ⟨timestamp, htime, ps, hmessage, rfl⟩ := entry_eq_ok_iff.1 hentry
    obtain ⟨hlevels, hcontext⟩ := (obstacle?_fields_eq_none_iff _ _).1 hobstacle
    exact ⟨exists_timestamp_iff.1 ⟨_, htime⟩, ⟨_, hmessage⟩, hline, hlevels, hcontext⟩
  · intro h
    obtain ⟨timestamp, htime⟩ := exists_timestamp_iff.2 h.time
    obtain ⟨ps, hmessage⟩ := h.message
    have hentry := entry_eq_ok_iff.2 ⟨timestamp, htime, ps, hmessage, rfl⟩
    have hobstacle := (obstacle?_fields_eq_none_iff timestamp (CodePoint.join ps)).2 ⟨h.levels, h.context⟩
    exact ⟨_, format_eq_ok_iff.2 ⟨_, hentry, h.line, hobstacle, rfl⟩⟩

/-- Within its bounds a line is what it is without any. -/
theorem jsonLine_of_format {line : String} (h : c.format = .ok line) : c.jsonLine = .ok line := by
  obtain ⟨v, hentry, -, -, rfl⟩ := format_eq_ok_iff.1 h
  rw [jsonLine, hentry]
  rfl

theorem toldBy (hkeys : ∀ v ∈ c.context, v.distinctKeys) {line : String} (h : c.format = .ok line) :
    c.ToldBy line := by
  obtain ⟨v, hentry, -, hobstacle, rfl⟩ := format_eq_ok_iff.1 h
  obtain ⟨timestamp, -, ps, hmessage, rfl⟩ := entry_eq_ok_iff.1 hentry
  have hdistinct : (Json.object (c.fields timestamp (.ofCodePoints (CodePoint.join ps)))).distinctKeys :=
    Bool.and_eq_true_iff.2 ⟨decide_eq_true (nodup_fields _ _),
      distinctKeys_fields ((forall_mem_context?_iff (P := fun v => v.distinctKeys) rfl).2 hkeys) _ _⟩
  have hplain : ∀ ch ∈ (Json.write (.object (c.fields timestamp (.ofCodePoints (CodePoint.join ps))))).toList,
      Text.IsPlain ch := by
    rw [Json.write, String.toList_ofList]
    exact Json.isPlain_of_mem_chars _
  have hread := Json.readBounded_write (Json.readsBack _ hdistinct hobstacle)
  have hdeep := Json.read_write (Json.readsBack _ hdistinct (Json.obstacle?_of_unbounded_levels hobstacle))
  exact ⟨h, hplain, fun ch hch => Text.isLineBreak_eq_false (hplain ch hch), _,
    told_fields timestamp hmessage, hread, hdeep⟩

instance (c : Call) : Decidable c.Writable :=
  decidable_of_iff (((Instant.ofNumber c.created).bind Instant.text).isOk ∧
      (Message.format c.message c.args).isOk ∧ Numeral.IsReadable c.line ∧ 0 < c.levels ∧
      ∀ v ∈ c.context, v.depth < c.levels ∧ ∀ n ∈ v.integers, Numeral.IsReadable n)
    ⟨fun ⟨time, message, line, levels, context⟩ =>
        ⟨exists_timestamp_iff.1 (isOk_iff_exists.1 time), isOk_iff_exists.1 message, line, levels, context⟩,
      fun h => ⟨isOk_iff_exists.2 (exists_timestamp_iff.2 h.time), isOk_iff_exists.2 h.message, h.line, h.levels,
        h.context⟩⟩

end Call

theorem fileText_cons {c : Call} {line : String} (h : c.format = .ok line) (cs : List Call) :
    fileText (c :: cs) = line ++ "\n" ++ fileText cs := by
  rw [fileText, List.filterMap_cons, h]
  exact String.join_cons

theorem fileText_cons_of_error {c : Call} (h : ∀ line, c.format ≠ .ok line) (cs : List Call) :
    fileText (c :: cs) = fileText cs := by
  rw [fileText, List.filterMap_cons]
  cases hformat : c.format with
  | error e => rfl
  | ok line => exact absurd hformat (h line)

/-- The calls with a line are those with all it needs, and the lines of the log file tell of them, one line of
one call and in the order of the calls. A context may be any value in whose objects no key stands twice. -/
theorem lines_tell_records {cs : List Call} (h : ∀ c ∈ cs, ∀ v ∈ c.context, v.distinctKeys) :
    (∀ c ∈ cs, (∃ line, c.format = .ok line) ↔ c.Writable) ∧
      ∃ lines, List.Forall₂ Call.ToldBy (cs.filter fun c => c.Writable) lines ∧
        Text.lines (fileText cs).toList = lines.map String.toList := by
  refine ⟨fun c _ => Call.exists_format_iff, ?_⟩
  induction cs with
  | nil => exact ⟨[], .nil, rfl⟩
  | cons c cs ih =>
    obtain ⟨hc, hcs⟩ := List.forall_mem_cons.1 h
    obtain ⟨lines, htold, hlines⟩ := ih hcs
    by_cases hwritable : c.Writable
    · obtain ⟨line, hformat⟩ := Call.exists_format_iff.2 hwritable
      have hline := Call.toldBy hc hformat
      have hfile : (fileText (c :: cs)).toList = line.toList ++ '\n' :: (fileText cs).toList := by
        rw [fileText_cons hformat, String.toList_append, String.toList_append, List.append_assoc]
        rfl
      refine ⟨line :: lines, ?_, ?_⟩
      · rw [List.filter_cons_of_pos (by simpa using hwritable)]
        exact .cons hline htold
      · rw [hfile, Text.lines_append hline.unbroken, hlines, List.map_cons]
    · refine ⟨lines, ?_, ?_⟩
      · rwa [List.filter_cons_of_neg (by simpa using hwritable)]
      · have hnone (line : String) : c.format ≠ .ok line :=
          fun hformat => hwritable (Call.exists_format_iff.1 ⟨line, hformat⟩)
        rwa [fileText_cons_of_error hnone]

/-- A message of several lines with quotes, a backslash, a tab and a character beyond the single units, and
a nested context. -/
def awkwardCall : Call where
  logger := "sysview.\"view\""
  level := 25
  message := "two\nlines\r\n\t\"é\" \\ 😀 \u2028"
  args := []
  file := "/srv/sysview/main.py"
  line := 10
  function := some "run"
  created := .whole 1700000000
  exception := none
  context := some (.object [("activities", .int 3), ("ratio", .float (.ofDecimal true 15 (-1))),
    ("nested", .list [.null, .bool true, .object [("name", .text "a\nb")], .list []])])

/-- A call with an argument, an exception of several lines and no context. -/
def failureCall : Call where
  logger := "sysview"
  level := Level.error
  message := "Group promoted: %s"
  args := [.text "ag0"]
  file := "view.py"
  line := 7
  function := none
  created := .real (.ofDecimal false 17000000005 (-1))
  exception := some ⟨"ValueError", "first\nsecond"⟩
  context := none

/-- A call whose argument does not suit its message. -/
def brokenCall : Call := { failureCall with message := "%d nodes" }

/-- A call whose message is made of the two halves of a pair. -/
def pairedCall : Call := { failureCall with message := "%c%c", args := [.int 0xd83d, .int 0xde00] }

theorem lines_tell_awkwardCall_pairedCall_failureCall :
    let cs := [awkwardCall, brokenCall, pairedCall, failureCall]
    (∀ c ∈ cs, ∀ v ∈ c.context, v.distinctKeys) ∧ (∀ c ∈ cs, (∃ line, c.format = .ok line) ↔ c.Writable) ∧
      ∃ lines, List.Forall₂ Call.ToldBy [awkwardCall, pairedCall, failureCall] lines ∧
        Text.lines (fileText cs).toList = lines.map String.toList := by
  intro cs
  have hkeys : ∀ c ∈ cs, ∀ v ∈ c.context, v.distinctKeys := by
    simp only [cs, List.forall_mem_cons]
    refine ⟨?_, ?_, ?_, ?_, List.forall_mem_nil _⟩
    · rintro v ⟨⟩
      decide +kernel
    · rintro v ⟨⟩
    · rintro v ⟨⟩
    · rintro v ⟨⟩
  have hwritable : (cs.filter fun c => c.Writable) = [awkwardCall, pairedCall, failureCall] := rfl
  obtain ⟨hformat, htell⟩ := lines_tell_records hkeys
  rw [hwritable] at htell
  exact ⟨hkeys, hformat, htell⟩

/-! ### Calls that are not told as they are -/

/-- Lists in one another. -/
def nested : Nat → Json
  | 0 => .null
  | n + 1 => .list [nested n]

theorem depth_nested (n : Nat) : (nested n).depth = n := by
  induction n with
  | zero => rfl
  | succ n ih => rw [nested, Json.depth, Json.depthItems, Json.depthItems, ih, Nat.max_zero]

/-- A call in the year 10000. -/
def lateCall : Call where
  logger := "sysview.view"
  level := Level.info
  message := "hello"
  args := []
  file := "/srv/app/mod.py"
  line := 10
  function := none
  created := .whole 253402300800
  exception := none
  context := none

/-- A call with a context that is nested as deep as an interpreter usually counts calls. -/
def deepCall : Call := { failureCall with context := some (nested 1000), levels := 1000 }

/-- A call with a number of 4301 digits as its context. -/
def longCall : Call := { failureCall with context := some (.int (Int.pow 10 4300)) }

/-- Not every call has a line, whether for its time, for the nesting of its context or for a number in it; and
where two halves in a message make a pair, the line tells of another message. -/
theorem not_every_call_told :
    lateCall.format = .error (.untold (.timestamp (.year 10000))) ∧
      (∀ line, deepCall.format ≠ .ok line) ∧ (∀ line, longCall.format ≠ .ok line) ∧
      ∃ ps line ms, Message.format pairedCall.message pairedCall.args = .ok ps ∧
        pairedCall.format = .ok line ∧ Json.read line = .ok (.object ms) ∧
        ∀ m, (Json.object ms).member? "message" = some m → ¬ m.IsTextOf ps := by
  refine ⟨rfl, fun line h => ?_, fun line h => ?_, ?_⟩
  · have hdepth := ((Call.exists_format_iff.1 ⟨line, h⟩).context _ rfl).1
    rw [depth_nested] at hdepth
    exact Nat.lt_irrefl _ hdepth
  · have hdigits := ((Call.exists_format_iff.1 ⟨line, h⟩).context _ rfl).2 _ List.mem_cons_self
    exact Numeral.not_fits_pow (by decide) hdigits.fits
  · have hwritable : pairedCall.Writable := by decide +kernel
    obtain ⟨line, hline⟩ := Call.exists_format_iff.2 hwritable
    have hkeys : ∀ v ∈ pairedCall.context, v.distinctKeys := by rintro v ⟨⟩
    obtain ⟨ms, htold, -, hread⟩ := (Call.toldBy hkeys hline).reads
    obtain ⟨ps, m, hformat, hmember, -, htext⟩ := htold.message
    refine ⟨ps, line, ms, hformat, hline, hread, fun n hn hpoints => ?_⟩
    obtain rfl : m = n := Option.some.inj (hmember.symm.trans hn)
    have hps : ps = [.half 0x3d, .half 0x600] := Except.ok.inj (hformat.symm.trans rfl)
    have hjoined := htext.1 hpoints
    rw [hps] at hjoined
    exact absurd hjoined (by decide)

end Log

end TraceGraph
