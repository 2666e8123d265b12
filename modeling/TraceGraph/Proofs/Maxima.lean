import TraceGraph.Proofs.Assignment
import TraceGraph.Proofs.MessageLinks
import TraceGraph.Proofs.TallyOrder

/-! The most messages between two things. It is kept up while messages are counted, one at a time, and is
the largest count at each moment: a count only grows, and it is looked at whenever it does. Nothing but a
batch or a reset changes it. -/

namespace TraceGraph

namespace Tally

variable {α : Type} [DecidableEq α]

/-- One more for a pair raises the largest count to that of the pair, if it was not larger before. -/
theorem Positive.max_add {t : Tally α} (h : t.Positive) (s d : α) :
    (t.add s d 1).max = Max.max t.max (t.count s d + 1) := by
  have hadd := h.add s d Int.one_pos
  apply eq_of_forall_ge_iff
  intro n
  rw [hadd.max_le_iff, sup_le_iff, h.max_le_iff]
  constructor
  · rintro ⟨hzero, hall⟩
    have hpair := hall s d
    rw [count_add, if_pos ⟨rfl, rfl⟩] at hpair
    refine ⟨⟨hzero, fun s' d' => ?_⟩, hpair⟩
    have hother := hall s' d'
    rw [count_add] at hother
    split at hother
    · next hends =>
      obtain ⟨rfl, rfl⟩ := hends
      omega
    · exact hother
  · rintro ⟨⟨hzero, hall⟩, hpair⟩
    refine ⟨hzero, fun s' d' => ?_⟩
    rw [count_add]
    split
    · exact hpair
    · exact hall s' d'

end Tally

namespace View

variable {v : View} {past : History}

/-! ### Batches -/

theorem maxSends_foldl_countMessage (es : List (EntityRef × EntityRef)) (hpos : v.messages.Positive)
    (hmax : v.maxSends = v.messages.max) :
    (es.foldl countMessage v).maxSends = (es.foldl countMessage v).messages.max := by
  induction es generalizing v with
  | nil => exact hmax
  | cons e es ih =>
    apply ih
    · exact hpos.add e.1 e.2 Int.one_pos
    · have hcount : (v.messages.add e.1 e.2 1).count e.1 e.2 = v.messages.count e.1 e.2 + 1 := by
        rw [Tally.count_add, if_pos ⟨rfl, rfl⟩]
      simp only [countMessage, hcount, hmax]
      exact (hpos.max_add e.1 e.2).symm

theorem Holds.maxSends_taken (h : v.Holds past) (hmax : v.maxSends = v.messages.max) (m : MetaModel)
    (b : Batch) : (v.taken m b).maxSends = (v.taken m b).messages.max := by
  apply maxSends_foldl_countMessage
  · change v.messages.Positive
    rw [h.messages]
    exact past.messages_positive
  · exact hmax

theorem Holds.maxSends_absorb (h : v.Holds past) (hmax : v.maxSends = v.messages.max) (b : Batch) :
    (v.absorb b).view.maxSends = (v.absorb b).view.messages.max := by
  obtain hview | ⟨m, hview⟩ := v.absorb_view b
  · rwa [hview]
  · rw [hview]
    exact h.maxSends_taken hmax m b

@[simp] theorem foldl_countMessage_maxLink (es : List (EntityRef × EntityRef)) (v : View) :
    (es.foldl countMessage v).maxLink = v.maxLink := by
  induction es generalizing v with
  | nil => rfl
  | cons e es ih => exact ih (v.countMessage e)

theorem absorb_maxLink (v : View) (b : Batch) : (v.absorb b).view.maxLink = v.maxLink := by
  obtain hview | ⟨m, hview⟩ := v.absorb_view b
  · rw [hview]
  · rw [hview]
    exact foldl_countMessage_maxLink _ _

/-! ### Other operations -/

theorem counters_assign (v : View) (ref : NodeRef) (axis : Axis) (c : Number) :
    (v.assign ref axis c).messages = v.messages ∧ (v.assign ref axis c).maxSends = v.maxSends ∧
      (v.assign ref axis c).maxLink = v.maxLink := by
  unfold View.assign
  split <;> exact ⟨rfl, rfl, rfl⟩

theorem counters_assign? (v : View) (ref : NodeRef) (axis : Axis) (c : Option Number) :
    (v.assign? ref axis c).messages = v.messages ∧ (v.assign? ref axis c).maxSends = v.maxSends ∧
      (v.assign? ref axis c).maxLink = v.maxLink := by
  cases c with
  | none => exact ⟨rfl, rfl, rfl⟩
  | some c => exact v.counters_assign ref axis c

theorem counters_setRunning (v : View) (ref : NodeRef) (ids : List Int) (running : Bool) :
    (v.setRunning ref ids running).messages = v.messages ∧
      (v.setRunning ref ids running).maxSends = v.maxSends ∧
      (v.setRunning ref ids running).maxLink = v.maxLink := by
  unfold View.setRunning
  repeat' split
  all_goals exact ⟨rfl, rfl, rfl⟩

/-- Whether an operation may change what was counted. -/
def Op.counts : Op → Bool
  | .ingest _ | .reset => true
  | _ => false

theorem remember_of_not_counts (v : View) (past : History) {op : Op} (hop : op.counts = false) :
    remember v past op = past := by
  cases op with
  | ingest | reset => cases hop
  | _ => rfl

/-- Reads, moves and running flags leave what was counted; only links that are read change the most
messages on a link. -/
theorem Holds.counters_step (h : v.Holds past) {op : Op} (hop : op.counts = false) :
    (op.run v).view.messages = v.messages ∧ (op.run v).view.maxSends = v.maxSends ∧
      (op.run v).view.maxLink = if op matches .links then past.messageLinks.max else v.maxLink := by
  rw [h.view_run op]
  cases op with
  | ingest | reset => cases hop
  | setMetaModel | listActivities | listPassives | links | find | visible => exact ⟨rfl, rfl, rfl⟩
  | move dataId x y =>
    obtain ⟨ref, x', y', hview, -, -⟩ := h.view_move dataId x y
    obtain ⟨hmessages, hsends, hlink⟩ := (v.listed.assign? ref .x x').counters_assign? ref .y y'
    obtain ⟨hmessages', hsends', hlink'⟩ := v.listed.counters_assign? ref .x x'
    rw [Op.effect, hview]
    exact ⟨hmessages.trans hmessages', hsends.trans hsends', hlink.trans hlink'⟩
  | setRunning dataId ids running =>
    rw [Op.effect]
    cases past.nodes.find? (·.dataId = dataId) with
    | none => exact ⟨rfl, rfl, rfl⟩
    | some ref => exact v.listed.counters_setRunning ref ids running

/-! ### Runs -/

theorem Holds.maxSends_step (h : v.Holds past) (hmax : v.maxSends = v.messages.max) (op : Op) :
    (op.run v).view.maxSends = (op.run v).view.messages.max := by
  by_cases hop : op.counts = false
  · obtain ⟨hmessages, hsends, -⟩ := h.counters_step hop
    rw [hsends, hmessages, hmax]
  · cases op with
    | ingest b => exact h.maxSends_absorb hmax b
    | reset => rfl
    | _ => exact absurd rfl hop

theorem Holds.maxSends_run (h : v.Holds past) (hmax : v.maxSends = v.messages.max) (ops : List Op) :
    (View.run ops v).maxSends = (View.run ops v).messages.max := by
  induction ops generalizing v past with
  | nil => exact hmax
  | cons op ops ih => exact ih (h.step op) (h.maxSends_step hmax op)

/-- In every view that a client can reach, the most messages between two things is the largest count. -/
theorem maxSends_run (m : Option MetaModel) (ops : List Op) :
    (run ops (new m)).maxSends = (run ops (new m)).messages.max :=
  (holds_new m).maxSends_run rfl ops

end View

end TraceGraph
