import TraceGraph.Proofs.Absorption
import TraceGraph.Proofs.Tally
import TraceGraph.Proofs.Visibility
import TraceGraph.View.Run

/-! The history of a view: the batches that it absorbed since it was last reset, each with the meta-model
of that time. A view holds what its history tells, and absorbing a batch adds the batch to both. -/

namespace TraceGraph

/-- A batch that was absorbed, with the meta-model by which its operations were understood. -/
structure Absorbed where
  metaModel : MetaModel
  batch : Batch

abbrev History := List Absorbed

namespace History

open Announcements

def activities (past : History) : List Activity := past.flatMap fun x => x.batch.activities

def passives (past : History) : List PassiveEntity := past.flatMap fun x => x.batch.passiveEntities

/-- The operations, each with the meta-model by which it is understood. -/
def operations (past : History) : List (MetaModel × Operation) :=
  past.flatMap fun x => x.batch.operations.map fun o => (x.metaModel, o)

/-- Between which things messages went. -/
def ends (past : History) : List (EntityRef × EntityRef) :=
  past.operations.filterMap fun x => x.2.ends? x.1

def Knows (past : History) : EntityRef → Prop
  | ⟨.activity, id⟩ => id ∈ ids past.activities
  | ⟨.passiveEntity, id⟩ => id ∈ ids past.passives
  | ⟨.dynamicScope, _⟩ => False

/-- The node that stands for a thing: that of its group if its key is crowded, or else its own. -/
def standIn? (past : History) : EntityRef → Option NodeRef
  | ⟨.activity, id⟩ => Announcements.standIn? activityThreshold past.activities id
  | ⟨.passiveEntity, id⟩ => Announcements.standIn? passiveThreshold past.passives id
  | ⟨.dynamicScope, _⟩ => none

/-- All that a history refers to is known to it. -/
structure Closed (past : History) : Prop where
  ends : ∀ x ∈ past.operations, ∃ ends, x.2.ends? x.1 = some ends ∧ past.Knows ends.1 ∧ past.Knows ends.2
  creators : ∀ a ∈ past.activities, ∀ id, a.creator = some id → past.Knows ⟨.activity, id⟩
  makers : ∀ e ∈ past.passives, past.Knows ⟨.activity, e.creator⟩

section Snoc
variable (past : History) (m : MetaModel) (b : Batch)

@[simp] theorem activities_snoc : activities (past ++ [⟨m, b⟩]) = past.activities ++ b.activities := by
  simp [activities]

@[simp] theorem passives_snoc : passives (past ++ [⟨m, b⟩]) = past.passives ++ b.passiveEntities := by
  simp [passives]

@[simp] theorem operations_snoc :
    operations (past ++ [⟨m, b⟩]) = past.operations ++ b.operations.map fun o => (m, o) := by
  simp [operations]

@[simp] theorem ends_snoc : ends (past ++ [⟨m, b⟩]) = past.ends ++ b.ends m := by
  simp [ends, Batch.ends, List.filterMap_append, List.filterMap_map]

end Snoc

theorem Knows.snoc {past : History} {e : EntityRef} (h : past.Knows e) (x : Absorbed) :
    Knows (past ++ [x]) e := by
  obtain ⟨kind, id⟩ := e
  cases kind with
  | activity =>
    obtain ⟨a, ha, hid⟩ := mem_ids.1 h
    exact mem_ids.2 ⟨a, by rw [activities_snoc]; exact List.mem_append_left _ ha, hid⟩
  | passiveEntity =>
    obtain ⟨a, ha, hid⟩ := mem_ids.1 h
    exact mem_ids.2 ⟨a, by rw [passives_snoc]; exact List.mem_append_left _ ha, hid⟩
  | dynamicScope => exact h

theorem closed_nil : Closed [] where
  ends _ h := by cases h
  creators _ h := by cases h
  makers _ h := by cases h

end History

namespace View

/-! ### Counting messages -/

section Counting
variable (es : List (EntityRef × EntityRef)) (v : View)

@[simp] theorem foldl_countMessage_metaModel : (es.foldl countMessage v).metaModel = v.metaModel := by
  induction es generalizing v with
  | nil => rfl
  | cons e es ih => exact ih (v.countMessage e)

@[simp] theorem foldl_countMessage_activities : (es.foldl countMessage v).activities = v.activities := by
  induction es generalizing v with
  | nil => rfl
  | cons e es ih => exact ih (v.countMessage e)

@[simp] theorem foldl_countMessage_passives : (es.foldl countMessage v).passives = v.passives := by
  induction es generalizing v with
  | nil => rfl
  | cons e es ih => exact ih (v.countMessage e)

@[simp] theorem foldl_countMessage_messages :
    (es.foldl countMessage v).messages = Tally.run (Tally.ones es) v.messages := by
  induction es generalizing v with
  | nil => rfl
  | cons e es ih => exact ih (v.countMessage e)

end Counting

/-! ### What a view holds -/

structure Holds (v : View) (past : History) : Prop where
  activities : v.activities.Holds activityThreshold past.activities
  passives : v.passives.Holds passiveThreshold past.passives
  messages : v.messages = Tally.run (Tally.ones past.ends) Tally.empty
  closed : past.Closed

theorem holds_new (m : Option MetaModel) : (new m).Holds [] where
  activities := Population.holds_empty (by decide) activityThreshold
  passives := Population.holds_empty (by decide) passiveThreshold
  messages := rfl
  closed := History.closed_nil

variable {v : View} {past : History}

/-- What a batch may refer to is what is known once it is absorbed. -/
theorem Holds.knows_of_known (h : v.Holds past) {m : MetaModel} {b : Batch} {e : EntityRef}
    (he : v.Known b e) : History.Knows (past ++ [⟨m, b⟩]) e := by
  obtain ⟨kind, id⟩ := e
  cases kind with
  | activity =>
    rcases he with hold | ⟨a, ha, hid⟩
    · rw [h.activities.ids] at hold
      exact History.Knows.snoc (e := ⟨.activity, id⟩) hold _
    · refine Announcements.mem_ids.2 ⟨a, ?_, hid⟩
      rw [History.activities_snoc]
      exact List.mem_append_right _ ha
  | passiveEntity =>
    rcases he with hold | ⟨a, ha, hid⟩
    · rw [h.passives.ids] at hold
      exact History.Knows.snoc (e := ⟨.passiveEntity, id⟩) hold _
    · refine Announcements.mem_ids.2 ⟨a, ?_, hid⟩
      rw [History.passives_snoc]
      exact List.mem_append_right _ ha
  | dynamicScope => exact he.elim

theorem Holds.closed_snoc (h : v.Holds past) {m : MetaModel} {b : Batch}
    (hr : ∀ r ∈ b.references, r.Resolves v m b) : History.Closed (past ++ [⟨m, b⟩]) where
  ends x hx := by
    rw [History.operations_snoc, List.mem_append, List.mem_map] at hx
    rcases hx with hx | ⟨o, ho, rfl⟩
    · obtain ⟨ends, hends, hs, hd⟩ := h.closed.ends x hx
      exact ⟨ends, hends, hs.snoc _, hd.snoc _⟩
    · obtain ⟨ends, hends, hs, hd⟩ := ends?_of_resolves hr ho
      exact ⟨ends, hends, h.knows_of_known hs, h.knows_of_known hd⟩
  creators a ha id hid := by
    rw [History.activities_snoc, List.mem_append] at ha
    rcases ha with ha | ha
    · exact (h.closed.creators a ha id hid).snoc _
    · apply h.knows_of_known
      refine hr (.actor id) ?_
      simp only [Batch.references, List.mem_append, List.mem_map, List.mem_filterMap]
      exact .inl (.inl (.inl ⟨id, ⟨a, ha, hid⟩, rfl⟩))
  makers e he := by
    rw [History.passives_snoc, List.mem_append] at he
    rcases he with he | he
    · exact (h.closed.makers e he).snoc _
    · apply h.knows_of_known
      refine hr (.actor e.creator) ?_
      simp only [Batch.references, List.mem_append, List.mem_map]
      exact .inl (.inl (.inr ⟨e, he, rfl⟩))

theorem Holds.taken (h : v.Holds past) {m : MetaModel} {b : Batch}
    (hr : ∀ r ∈ b.references, r.Resolves v m b) : (v.taken m b).Holds (past ++ [⟨m, b⟩]) where
  activities := by
    rw [View.taken, foldl_countMessage_activities, History.activities_snoc]
    exact h.activities.announceAll b.activities
  passives := by
    rw [View.taken, foldl_countMessage_passives, History.passives_snoc]
    exact h.passives.announceAll b.passiveEntities
  messages := by
    rw [View.taken, foldl_countMessage_messages, h.messages, ← Tally.run_append, History.ends_snoc,
      Tally.ones, Tally.ones, Tally.ones, List.map_append]
  closed := h.closed_snoc hr

/-! ### Runs -/

/-- The history after one more operation. -/
def remember (v : View) (past : History) : Op → History
  | .ingest b =>
    match v.metaModel, (v.absorb b).answer with
    | some m, .ok () => past ++ [⟨m, b⟩]
    | _, _ => past
  | .reset => []
  | _ => past

/-- The history after a list of operations on a view with a given history. -/
def historyAfter : List Op → View → History → History
  | [], _, past => past
  | op :: ops, v, past => historyAfter ops (op.run v).view (remember v past op)

theorem historyAfter_append (ops more : List Op) (v : View) (past : History) :
    historyAfter (ops ++ more) v past = historyAfter more (run ops v) (historyAfter ops v past) := by
  induction ops generalizing v past with
  | nil => rfl
  | cons op ops ih => exact ih (op.run v).view (remember v past op)

/-- The batches that a run of a new view absorbed since it was last reset. -/
def history (m : Option MetaModel) (ops : List Op) : History := historyAfter ops (new m) []

theorem history_append (m : Option MetaModel) (ops more : List Op) :
    history m (ops ++ more) = historyAfter more (run ops (new m)) (history m ops) :=
  historyAfter_append ops more (new m) []

theorem history_snoc (m : Option MetaModel) (ops : List Op) (op : Op) :
    history m (ops ++ [op]) = remember (run ops (new m)) (history m ops) op := history_append m ops [op]

/-- A batch is refused, and view and history stay as they are, or the whole batch is taken in and added to
the history. -/
theorem absorb_cases (v : View) (past : History) (b : Batch) :
    (v.absorb b).view = v ∧ remember v past (.ingest b) = past ∨
      ∃ m, (∀ r ∈ b.references, r.Resolves v m b) ∧ (v.absorb b).answer = .ok () ∧
        (v.absorb b).view = v.taken m b ∧ remember v past (.ingest b) = past ++ [⟨m, b⟩] := by
  cases hm : v.metaModel with
  | none =>
    rw [remember, View.absorb, hm]
    exact .inl ⟨rfl, rfl⟩
  | some m =>
    cases hcheck : v.check m b with
    | error e =>
      rw [remember, absorb_of_check_error hm hcheck, hm]
      exact .inl ⟨rfl, rfl⟩
    | ok =>
      have hall := (check_eq_ok_iff v m b).1 hcheck
      obtain ⟨hok, hview⟩ := absorb_of_resolves hm hall
      refine .inr ⟨m, hall, hok, hview, ?_⟩
      rw [remember, hok, hm]

/-- An absorbed batch is added to the history, a refused one leaves view and history. -/
theorem Holds.absorb (h : v.Holds past) (b : Batch) :
    (v.absorb b).view.Holds (remember v past (.ingest b)) := by
  obtain ⟨hview, hpast⟩ | ⟨m, hall, -, hview, hpast⟩ := v.absorb_cases past b
  · rwa [hview, hpast]
  · rw [hview, hpast]
    exact h.taken hall

end View

end TraceGraph
