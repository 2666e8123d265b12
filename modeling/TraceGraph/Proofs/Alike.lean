import TraceGraph.Proofs.Nodes
import TraceGraph.Proofs.Run

/-! Views that hold the same history and have the same own nodes are alike, whatever groups they have
promoted and wherever these stand. A read keeps a view alike to another one that is not read, and any other
operation answers the same on both and keeps them alike. -/

namespace TraceGraph

open Announcements Traced

/-! ### Own nodes -/

namespace Population

variable {α : Type} [Traced α] {limit : Int} {as : List α} {p q : Population α}

theorem Holds.announce_table (hp : p.Holds limit as) (hq : q.Holds limit as) (h : p.table = q.table)
    (a : α) : (p.announce a).table = (q.announce a).table := by
  have hsize : (p.groups.grown (Traced.key a) a).size = (q.groups.grown (Traced.key a) a).size :=
    (hp.grown a).size_eq.trans (hq.grown a).size_eq.symm
  have hgroups : p.groups.size = q.groups.size := hp.groups_size.trans hq.groups_size.symm
  simp only [Population.announce, hsize, hgroups, h]

theorem Holds.announceAll_table (hp : p.Holds limit as) (hq : q.Holds limit as)
    (h : p.table = q.table) (bs : List α) :
    (Population.announceAll bs p).table = (Population.announceAll bs q).table := by
  induction bs generalizing p q as with
  | nil => exact h
  | cons b bs ih => exact ih (hp.announce b) (hq.announce b) (hp.announce_table hq h b)

omit [Traced α] in
theorem assignOwn_table (h : p.table = q.table) (id : Int) (axis : Axis) (c : Number) :
    (p.assignOwn id axis c).table = (q.assignOwn id axis c).table := by
  rw [assignOwn, assignOwn, h]

omit [Traced α] in
@[simp] theorem assignGroup_table (p : Population α) (id : Nat) (axis : Axis) (c : Number) :
    (p.assignGroup id axis c).table = p.table := by
  unfold assignGroup
  split <;> rfl

theorem setOwnRunning_table {p q : Population Activity} (h : p.table = q.table) (id : Int)
    (running : Bool) : (p.setOwnRunning id running).table = (q.setOwnRunning id running).table := by
  unfold setOwnRunning
  rw [h]
  split
  · exact h
  · rfl

theorem Holds.setGroupRunning_table {p q : Population Activity} {as : List Activity}
    (hp : p.Holds limit as) (hq : q.Holds limit as) (h : p.table = q.table) (id : Nat) (ids : List Int)
    (running : Bool) :
    (p.setGroupRunning id ids running).table = (q.setGroupRunning id ids running).table := by
  -- the group of a number has the same key in both
  have hkey := (hp.find_entry id).trans (hq.find_entry id).symm
  unfold Population.setGroupRunning
  cases hfp : p.groups.groups.entries.find? (·.2.id = id) with
  | none =>
    rw [hfp, Option.map_none, eq_comm, Option.map_eq_none_iff] at hkey
    rw [hkey]
    exact h
  | some e =>
    rw [hfp, Option.map_some, eq_comm, Option.map_eq_some_iff] at hkey
    obtain ⟨e', hfq, he⟩ := hkey
    rw [hfq, h]
    simp only [he]

end Population

namespace View

variable {v w : View} {past : History}

/-! ### Alike views -/

/-- Views that differ at most in the groups that they have promoted and in what follows from that. -/
structure Alike (v w : View) (past : History) : Prop where
  left : v.Holds past
  right : w.Holds past
  metaModel : v.metaModel = w.metaModel
  activities : v.activities.table = w.activities.table
  passives : v.passives.table = w.passives.table
  maxSends : v.maxSends = w.maxSends

theorem Holds.alike_self (h : v.Holds past) : Alike v v past := ⟨h, h, rfl, rfl, rfl, rfl⟩

/-- Views alike to one view are alike. -/
theorem Alike.join {u : View} (hv : Alike v u past) (hw : Alike w u past) : Alike v w past where
  left := hv.left
  right := hw.left
  metaModel := hv.metaModel.trans hw.metaModel.symm
  activities := hv.activities.trans hw.activities.symm
  passives := hv.passives.trans hw.passives.symm
  maxSends := hv.maxSends.trans hw.maxSends.symm

theorem Alike.check (h : Alike v w past) (m : MetaModel) (b : Batch) : v.check m b = w.check m b := by
  have hknows : v.knows b = w.knows b := by
    funext kind id
    cases kind <;> simp only [View.knows, Population.knows, h.activities, h.passives]
  simp only [View.check, View.require, hknows]

theorem foldl_countMessage_maxSends (es : List (EntityRef × EntityRef)) (hmessages : v.messages = w.messages)
    (hmax : v.maxSends = w.maxSends) :
    (es.foldl countMessage v).maxSends = (es.foldl countMessage w).maxSends := by
  induction es generalizing v w with
  | nil => exact hmax
  | cons e es ih =>
    apply ih
    · simp only [countMessage, hmessages]
    · simp only [countMessage, hmessages, hmax]

theorem Alike.taken (h : Alike v w past) {m : MetaModel} {b : Batch} (hcheck : v.check m b = .ok ()) :
    Alike (v.taken m b) (w.taken m b) (past ++ [⟨m, b⟩]) where
  left := h.left.taken ((check_eq_ok_iff v m b).1 hcheck)
  right := h.right.taken ((check_eq_ok_iff w m b).1 ((h.check m b).symm.trans hcheck))
  metaModel := by
    rw [View.taken, View.taken, foldl_countMessage_metaModel, foldl_countMessage_metaModel]
    exact h.metaModel
  activities := by
    rw [View.taken, View.taken, foldl_countMessage_activities, foldl_countMessage_activities]
    exact h.left.activities.announceAll_table h.right.activities h.activities b.activities
  passives := by
    rw [View.taken, View.taken, foldl_countMessage_passives, foldl_countMessage_passives]
    exact h.left.passives.announceAll_table h.right.passives h.passives b.passiveEntities
  maxSends := foldl_countMessage_maxSends _ (h.left.messages.trans h.right.messages.symm) h.maxSends

theorem Alike.absorb (h : Alike v w past) (b : Batch) :
    (v.absorb b).answer = (w.absorb b).answer ∧
      Alike (v.absorb b).view (w.absorb b).view (remember w past (.ingest b)) := by
  cases hm : w.metaModel with
  | none =>
    rw [remember, View.absorb, View.absorb, hm, h.metaModel, hm]
    exact ⟨rfl, h⟩
  | some m =>
    have hm' : v.metaModel = some m := h.metaModel.trans hm
    cases hcheck : w.check m b with
    | error e =>
      rw [remember, absorb_of_check_error hm hcheck,
        absorb_of_check_error hm' ((h.check m b).trans hcheck), hm]
      exact ⟨rfl, h⟩
    | ok =>
      have hcheck' := (h.check m b).trans hcheck
      obtain ⟨hok, hview⟩ := absorb_of_resolves hm ((check_eq_ok_iff w m b).1 hcheck)
      obtain ⟨hok', hview'⟩ := absorb_of_resolves hm' ((check_eq_ok_iff v m b).1 hcheck')
      rw [remember, hok, hok', hview, hview', hm]
      exact ⟨rfl, h.taken hcheck'⟩

/-! ### Operations on alike views -/

theorem Alike.assign (h : Alike v w past) (ref : NodeRef) (axis : Axis) (c : Number) :
    Alike (v.assign ref axis c) (w.assign ref axis c) past := by
  refine ⟨h.left.assign ref axis c, h.right.assign ref axis c, ?_, ?_, ?_, ?_⟩
  · unfold View.assign
    split <;> exact h.metaModel
  · unfold View.assign
    split <;> simp only [Population.assignGroup_table, h.activities, Population.assignOwn_table h.activities]
  · unfold View.assign
    split <;> simp only [Population.assignGroup_table, h.passives, Population.assignOwn_table h.passives]
  · unfold View.assign
    split <;> exact h.maxSends

theorem Alike.setRunning (h : Alike v w past) (ref : NodeRef) (ids : List Int) (running : Bool) :
    Alike (v.setRunning ref ids running) (w.setRunning ref ids running) past := by
  refine ⟨h.left.setRunning ref ids running, h.right.setRunning ref ids running, ?_, ?_, ?_, ?_⟩
  · unfold View.setRunning
    repeat' split
    all_goals exact h.metaModel
  · unfold View.setRunning
    split
    · split
      · exact Population.setOwnRunning_table h.activities _ running
      · exact h.activities
    · exact h.left.activities.setGroupRunning_table h.right.activities h.activities _ ids running
    · exact h.activities
  · unfold View.setRunning
    repeat' split
    all_goals exact h.passives
  · unfold View.setRunning
    repeat' split
    all_goals exact h.maxSends

/-- A coordinate is assigned in both views or refused in both for the same reason. -/
theorem Alike.assignGiven (h : Alike v w past) (ref : NodeRef) (axis : Axis) (given : Option Json) :
    (∃ e, v.assignGiven ref axis given = .error e ∧ w.assignGiven ref axis given = .error e) ∨
    ∃ v' w', v.assignGiven ref axis given = .ok v' ∧ w.assignGiven ref axis given = .ok w' ∧
      Alike v' w' past := by
  cases given with
  | none => exact .inr ⟨v, w, rfl, rfl, h⟩
  | some value =>
    rw [View.assignGiven, View.assignGiven]
    cases Fault.comparable value with
    | error e => exact .inl ⟨e, rfl, rfl⟩
    | ok c => exact .inr ⟨_, _, rfl, rfl, h.assign ref axis c⟩

theorem Alike.listed (h : Alike v w past) : Alike v.listed w.listed past :=
  ⟨h.left.listed, h.right.listed, h.metaModel, h.activities, h.passives, h.maxSends⟩

theorem Alike.move (h : Alike v w past) (dataId : String) (x y : Option Json) :
    (v.move dataId x y).answer = (w.move dataId x y).answer ∧
      Alike (v.move dataId x y).view (w.move dataId x y).view past := by
  obtain ⟨log, hlog⟩ := h.left.find dataId
  obtain ⟨log', hlog'⟩ := h.right.find dataId
  rw [View.move, View.move, hlog, hlog']
  cases past.nodes.find? (·.dataId = dataId) with
  | none => exact ⟨rfl, h.listed⟩
  | some ref =>
    obtain ⟨e, hv, hw⟩ | ⟨v', w', hv, hw, h'⟩ := h.listed.assignGiven ref .x x
    · simp only [hv, hw]
      exact ⟨rfl, h.listed⟩
    · simp only [hv, hw]
      obtain ⟨e, hv, hw⟩ | ⟨v'', w'', hv, hw, h''⟩ := h'.assignGiven ref .y y
      · simp only [hv, hw]
        exact ⟨rfl, h'⟩
      · simp only [hv, hw]
        exact ⟨trivial, h''⟩

/-- Whether an operation only reads. -/
def Op.isRead : Op → Bool
  | .listActivities | .listPassives | .links | .find _ | .visible _ => true
  | .ingest _ | .setMetaModel _ | .reset | .move _ _ _ | .setRunning _ _ _ => false

/-- Promotions on one side keep views alike. -/
theorem Alike.promoted (h : Alike v w past) {p : Population Activity} {q : Population PassiveEntity}
    {maxLink : Int} (hholds : Holds { v with activities := p, passives := q, maxLink } past)
    (hp : p.table = v.activities.table) (hq : q.table = v.passives.table) :
    Alike { v with activities := p, passives := q, maxLink } w past where
  left := hholds
  right := h.right
  metaModel := h.metaModel
  activities := hp.trans h.activities
  passives := hq.trans h.passives
  maxSends := h.maxSends

/-- A view that is read stays alike to one that is not. -/
theorem Alike.read (h : Alike v w past) {o : Op} (ho : o.isRead = true) :
    Alike (o.run v).view w past := by
  rw [h.left.view_run o]
  cases o with
  | listActivities =>
    exact h.promoted (h.left.mapPopulations h.left.activities.listed h.left.passives) rfl rfl
  | listPassives =>
    exact h.promoted (h.left.mapPopulations h.left.activities h.left.passives.listed) rfl rfl
  | links => exact h.promoted (h.left.settledWith past.messageLinks.max) rfl rfl
  | find dataId => exact h.promoted h.left.listed rfl rfl
  | visible e => exact h
  | ingest | setMetaModel | reset | move | setRunning => cases ho

/-- Any other operation answers the same on alike views, which stay alike. -/
theorem Alike.change (h : Alike v w past) {o : Op} (ho : o.isRead = false) :
    (o.run v).answer = (o.run w).answer ∧ Alike (o.run v).view (o.run w).view (remember w past o) := by
  cases o with
  | ingest b =>
    obtain ⟨hanswer, halike⟩ := h.absorb b
    exact ⟨congrArg (fun a => (a.map fun _ => Answer.done).mapError Fault.sequencing) hanswer, halike⟩
  | setMetaModel m =>
    have hleft := h.left.step (.setMetaModel m)
    have hright := h.right.step (.setMetaModel m)
    exact ⟨rfl, hleft, hright, rfl, h.activities, h.passives, h.maxSends⟩
  | reset =>
    simp only [Op.run, View.reset, h.metaModel]
    exact ⟨trivial, (holds_new w.metaModel).alike_self⟩
  | move dataId x y => exact h.move dataId x y
  | setRunning dataId ids running =>
    obtain ⟨log, hlog⟩ := h.left.find dataId
    obtain ⟨log', hlog'⟩ := h.right.find dataId
    rw [Op.run, Op.run, hlog, hlog']
    cases past.nodes.find? (·.dataId = dataId) with
    | none => exact ⟨rfl, h.listed⟩
    | some ref => exact ⟨rfl, h.listed.setRunning ref ids running⟩
  | listActivities | listPassives | links | find | visible => cases ho

end View

end TraceGraph
