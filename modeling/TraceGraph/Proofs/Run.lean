import TraceGraph.Proofs.Reading

/-! A run of a view holds its history. Batches add to it, a reset starts it anew, and every other
operation keeps it, one that fails midway included. -/

namespace TraceGraph.View

variable {v : View} {past : History}

/-! ### Moves and running flags -/

theorem Holds.assign (h : v.Holds past) (ref : NodeRef) (axis : Axis) (c : Number) :
    (v.assign ref axis c).Holds past := by
  unfold View.assign
  split
  · exact h.mapPopulations (h.activities.assignOwn _ axis c) h.passives
  · exact h.mapPopulations h.activities (h.passives.assignOwn _ axis c)
  · exact h.mapPopulations (h.activities.assignGroup _ axis c) h.passives
  · exact h.mapPopulations h.activities (h.passives.assignGroup _ axis c)
  · exact h

theorem Holds.assignGiven (h : v.Holds past) {ref : NodeRef} {axis : Axis} {given : Option Json}
    {w : View} (hw : v.assignGiven ref axis given = .ok w) : w.Holds past := by
  cases given with
  | none =>
    obtain rfl := Except.ok.inj hw
    exact h
  | some value =>
    rw [View.assignGiven] at hw
    cases hc : Fault.comparable value with
    | error e =>
      rw [hc] at hw
      cases hw
    | ok c =>
      rw [hc] at hw
      obtain rfl := Except.ok.inj hw
      exact h.assign ref axis c

theorem Holds.move (h : v.Holds past) (dataId : String) (x y : Option Json) :
    (v.move dataId x y).view.Holds past := by
  obtain ⟨log, hlog⟩ := h.find dataId
  rw [View.move, hlog]
  cases past.nodes.find? (·.dataId = dataId) with
  | none => exact h.listed
  | some ref =>
    cases hx : v.listed.assignGiven ref .x x with
    | error e =>
      simp only [hx]
      exact h.listed
    | ok w =>
      have hw := h.listed.assignGiven hx
      cases hy : w.assignGiven ref .y y with
      | error e =>
        simp only [hx, hy]
        exact hw
      | ok u =>
        simp only [hx, hy]
        exact hw.assignGiven hy

theorem Holds.setRunning (h : v.Holds past) (ref : NodeRef) (ids : List Int) (running : Bool) :
    (v.setRunning ref ids running).Holds past := by
  unfold View.setRunning
  split
  · split
    · exact h.mapPopulations (h.activities.setOwnRunning _ running) h.passives
    · exact h
  · exact h.mapPopulations (h.activities.setGroupRunning _ ids running) h.passives
  · exact h

/-! ### Runs -/

/-- What an operation makes of a view that holds a history. -/
def Op.effect (v : View) (past : History) : Op → View
  | .ingest b => (v.absorb b).view
  | .setMetaModel m => v.setMetaModel m
  | .reset => v.reset
  | .listActivities => { v with activities := v.activities.listed }
  | .listPassives => { v with passives := v.passives.listed }
  | .links => { v.settled with maxLink := past.messageLinks.max }
  | .find _ => v.listed
  | .move dataId x y => (v.move dataId x y).view
  | .setRunning dataId ids running =>
    (past.nodes.find? (·.dataId = dataId)).elim v.listed (v.listed.setRunning · ids running)
  | .visible _ => v

/-- Reads and running flags leave a view that can be told without their answers and records. -/
theorem Holds.view_run (h : v.Holds past) (op : Op) : (op.run v).view = op.effect v past := by
  cases op with
  | listActivities =>
    obtain ⟨log, hlog⟩ := h.listActivities
    rw [Op.run, hlog]
    rfl
  | listPassives =>
    obtain ⟨log, hlog⟩ := h.listPassives
    rw [Op.run, hlog]
    rfl
  | links =>
    obtain ⟨log, hlog⟩ := h.links
    rw [Op.run, hlog]
    rfl
  | find dataId =>
    obtain ⟨log, hlog⟩ := h.find dataId
    rw [Op.run, hlog]
    rfl
  | setRunning dataId ids running =>
    obtain ⟨log, hlog⟩ := h.find dataId
    rw [Op.run, Op.effect, hlog]
    cases past.nodes.find? (·.dataId = dataId) <;> rfl
  | ingest | setMetaModel | reset | move | visible => rfl

/-- One operation keeps the view and its history together. -/
theorem Holds.step (h : v.Holds past) (op : Op) : (op.run v).view.Holds (remember v past op) := by
  rw [h.view_run op]
  cases op with
  | ingest b => exact h.absorb b
  | setMetaModel m => exact ⟨h.activities, h.passives, h.messages, h.closed⟩
  | reset => exact holds_new v.metaModel
  | listActivities => exact h.mapPopulations h.activities.listed h.passives
  | listPassives => exact h.mapPopulations h.activities h.passives.listed
  | links => exact h.settledWith past.messageLinks.max
  | find dataId => exact h.listed
  | move dataId x y => exact h.move dataId x y
  | setRunning dataId ids running =>
    rw [Op.effect]
    cases past.nodes.find? (·.dataId = dataId) with
    | none => exact h.listed
    | some ref => exact h.listed.setRunning ref ids running
  | visible e => exact h

theorem Holds.run (h : v.Holds past) (ops : List Op) :
    (run ops v).Holds (historyAfter ops v past) := by
  induction ops generalizing v past with
  | nil => exact h
  | cons op ops ih => exact ih (h.step op)

/-- Every view that a client can reach holds the history of its run. -/
theorem holds_run (m : Option MetaModel) (ops : List Op) : (run ops (new m)).Holds (history m ops) :=
  (holds_new m).run ops

end TraceGraph.View
