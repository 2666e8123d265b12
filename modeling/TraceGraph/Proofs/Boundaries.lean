import TraceGraph.Proofs.Maxima
import TraceGraph.Proofs.Transparency

/-! Where one batch ends and the next begins makes no difference. The references of two batches resolve
one batch after the other exactly if they resolve in the batches joined to one, and then both ways lead
to views that differ only in the order in which pairs were first counted. Nothing that a client can call
looks at that order, but for the order of links. -/

namespace TraceGraph

open Announcements Sequence Traced

/-! ### References of joined batches -/

theorem Population.mem_keys_announceAll {α : Type} [Traced α] (as : List α) (p : Population α) (id : Int) :
    id ∈ (announceAll as p).table.keys ↔ id ∈ p.table.keys ∨ ∃ a ∈ as, Traced.id a = id := by
  induction as generalizing p with
  | nil => simp
  | cons a as ih =>
    have hannounce : id ∈ (p.announce a).table.keys ↔ id ∈ p.table.keys ∨ Traced.id a = id := by
      rw [announce, Table.keys_set]
      split
      · next hmem =>
        constructor
        · exact .inl
        · rintro (h | rfl)
          · exact h
          · exact hmem
      · rw [List.mem_append, List.mem_singleton, eq_comm (a := id)]
    rw [announceAll_cons, ih, hannounce, List.exists_mem_cons_iff, or_assoc]

theorem Reference.Resolves.mono {v w : View} {m : MetaModel} {b c : Batch} {r : Reference}
    (h : r.Resolves v m b) (hknown : ∀ e, v.Known b e → w.Known c e) : r.Resolves w m c := by
  cases r with
  | actor id => exact hknown ⟨.activity, id⟩ h
  | target type id =>
    obtain ⟨kind, hkind, he⟩ := h
    exact ⟨kind, hkind, hknown _ he⟩
  | source type id =>
    obtain ⟨kind, hkind, he⟩ := h
    exact ⟨kind, hkind, hknown _ he⟩

namespace Batch

theorem mem_references_append {b c : Batch} {r : Reference} :
    r ∈ (b.append c).references ↔ r ∈ b.references ∨ r ∈ c.references := by
  simp only [references, append, List.filterMap_append, List.map_append, List.flatMap_append,
    List.mem_append]
  tauto

/-- In batches joined to one, the sends of the second come before the receives of the first. -/
theorem ends_append_perm (m : MetaModel) (b c : Batch) :
    ((b.append c).ends m).Perm (b.ends m ++ c.ends m) := by
  have hoperations : (b.append c).operations.Perm (b.operations ++ c.operations) := by
    simp only [operations, append, List.map_append, List.append_assoc]
    exact (List.perm_append_comm_assoc _ _ _).append_left _
  rw [ends, ends, ends, ← List.filterMap_append]
  exact hoperations.filterMap _

end Batch

namespace View

variable {v w : View} {past past' : History}

/-- What is known after a batch is what was known or is announced by it. -/
theorem known_taken (v : View) (m : MetaModel) (b c : Batch) (e : EntityRef) :
    (v.taken m b).Known c e ↔ v.Known (b.append c) e := by
  obtain ⟨kind, id⟩ := e
  cases kind with
  | activity =>
    simp only [Known, taken, foldl_countMessage_activities, Population.mem_keys_announceAll, Batch.append,
      List.mem_append, or_and_right, exists_or, or_assoc]
    rfl
  | passiveEntity =>
    simp only [Known, taken, foldl_countMessage_passives, Population.mem_keys_announceAll, Batch.append,
      List.mem_append, or_and_right, exists_or, or_assoc]
    rfl
  | dynamicScope => exact Iff.rfl

theorem Known.append {b : Batch} {e : EntityRef} (h : v.Known b e) (c : Batch) :
    v.Known (b.append c) e := by
  obtain ⟨kind, id⟩ := e
  cases kind with
  | activity =>
    rcases h with hold | ⟨a, ha, hid⟩
    · exact .inl hold
    · exact .inr ⟨a, List.mem_append_left _ ha, hid⟩
  | passiveEntity =>
    rcases h with hold | ⟨a, ha, hid⟩
    · exact .inl hold
    · exact .inr ⟨a, List.mem_append_left _ ha, hid⟩
  | dynamicScope => exact h

/-- A batch that is absorbed is checked by a meta-model, and all its references resolve. -/
theorem absorb_eq_ok_iff (v : View) (b : Batch) :
    (v.absorb b).answer = .ok () ↔
      ∃ m, v.metaModel = some m ∧ ∀ r ∈ b.references, r.Resolves v m b := by
  cases hm : v.metaModel with
  | none => simp [absorb, hm]
  | some m =>
    constructor
    · intro h
      refine ⟨m, rfl, (check_eq_ok_iff v m b).1 ?_⟩
      cases hcheck : v.check m b with
      | ok => rfl
      | error e =>
        rw [absorb_of_check_error hm hcheck] at h
        cases h
    · rintro ⟨m', hm', hall⟩
      obtain rfl := Option.some.inj hm'
      exact (absorb_of_resolves hm hall).1

theorem resolves_append_iff {m : MetaModel} {b : Batch} (c : Batch)
    (hb : ∀ r ∈ b.references, r.Resolves v m b) :
    (∀ r ∈ (b.append c).references, r.Resolves v m (b.append c)) ↔
      ∀ r ∈ c.references, r.Resolves (v.taken m b) m c := by
  constructor
  · intro h r hr
    exact (h r (Batch.mem_references_append.2 (.inr hr))).mono fun e he => (known_taken v m b c e).2 he
  · intro h r hr
    rcases Batch.mem_references_append.1 hr with hr | hr
    · exact (hb r hr).mono fun e he => he.append c
    · exact (h r hr).mono fun e he => (known_taken v m b c e).1 he

/-! ### Operations that do not look at what was counted -/

/-- The view with other message counts. -/
def withCounts (v : View) (messages : Tally EntityRef) (maxSends : Int) : View :=
  { v with messages, maxSends }

section WithCounts
variable (v : View) (t : Tally EntityRef) (n : Int)

theorem listActivities_withCounts : (v.withCounts t n).listActivities =
    v.listActivities.map fun r => (r.1.withCounts t n, r.2) := by
  simp only [listActivities, withCounts]
  cases v.activities.list <;> rfl

theorem listPassives_withCounts : (v.withCounts t n).listPassives =
    v.listPassives.map fun r => (r.1.withCounts t n, r.2) := by
  simp only [listPassives, withCounts]
  cases v.passives.list <;> rfl

theorem find_withCounts (dataId : String) : (v.withCounts t n).find dataId =
    (v.find dataId).map fun r => (r.1.withCounts t n, r.2) := by
  rw [find, find, listActivities_withCounts]
  cases v.listActivities with
  | error e => rfl
  | ok r =>
    simp only [Except.map, bind, Except.bind, listPassives_withCounts]
    cases r.1.listPassives <;> rfl

theorem assign_withCounts (ref : NodeRef) (axis : Axis) (c : Number) :
    (v.withCounts t n).assign ref axis c = (v.assign ref axis c).withCounts t n := by
  unfold assign
  split <;> rfl

theorem assignGiven_withCounts (ref : NodeRef) (axis : Axis) (given : Option Json) :
    (v.withCounts t n).assignGiven ref axis given =
      (v.assignGiven ref axis given).map (·.withCounts t n) := by
  cases given with
  | none => rfl
  | some value =>
    rw [assignGiven, assignGiven]
    cases Fault.comparable value with
    | error e => rfl
    | ok c => exact congrArg Except.ok (v.assign_withCounts t n ref axis c)

theorem setRunning_withCounts (ref : NodeRef) (ids : List Int) (running : Bool) :
    (v.withCounts t n).setRunning ref ids running = (v.setRunning ref ids running).withCounts t n := by
  unfold setRunning
  repeat' split
  all_goals rfl

/-- Reads of nodes, moves and running flags have nothing to do with message counts. -/
theorem run_withCounts {op : Op} (hop : op.counts = false) (hlinks : op ≠ .links) :
    op.run (v.withCounts t n) =
      ⟨(op.run v).view.withCounts t n, (op.run v).answer, (op.run v).log⟩ := by
  cases op with
  | ingest | reset => cases hop
  | links => exact absurd rfl hlinks
  | setMetaModel m => rfl
  | visible e => rfl
  | listActivities =>
    rw [Op.run, Op.run, listActivities_withCounts]
    cases v.listActivities <;> rfl
  | listPassives =>
    rw [Op.run, Op.run, listPassives_withCounts]
    cases v.listPassives <;> rfl
  | find dataId =>
    rw [Op.run, Op.run, find_withCounts]
    cases v.find dataId <;> rfl
  | move dataId x y =>
    rw [Op.run, Op.run, View.move, View.move, find_withCounts]
    rcases v.find dataId with e | ⟨u, _ | ref, log⟩
    · rfl
    · rfl
    · simp only [Except.map, assignGiven_withCounts]
      cases u.assignGiven ref .x x with
      | error e => rfl
      | ok u' =>
        simp only [Except.map, assignGiven_withCounts]
        cases u'.assignGiven ref .y y <;> rfl
  | setRunning dataId ids running =>
    rw [Op.run, Op.run, find_withCounts]
    rcases v.find dataId with e | ⟨u, _ | ref, log⟩
    · rfl
    · rfl
    · simp only [Except.map, setRunning_withCounts]

end WithCounts

end View

/-! ### Histories that were counted in another order -/

namespace History

/-- The same announcements, and the same messages in some order. -/
structure Recounted (past past' : History) : Prop where
  activities : past.activities = past'.activities
  passives : past.passives = past'.passives
  ends : past.ends.Perm past'.ends

namespace Recounted

variable {past past' : History} (h : past.Recounted past')

theorem refl (past : History) : past.Recounted past := ⟨rfl, rfl, .refl _⟩

theorem joined (past : History) (m : MetaModel) (b c : Batch) :
    Recounted (past ++ [⟨m, b.append c⟩]) (past ++ [⟨m, b⟩] ++ [⟨m, c⟩]) where
  activities := by
    rw [activities_snoc, activities_snoc, activities_snoc, List.append_assoc]
    rfl
  passives := by
    rw [passives_snoc, passives_snoc, passives_snoc, List.append_assoc]
    rfl
  ends := by
    rw [ends_snoc, ends_snoc, ends_snoc, List.append_assoc]
    exact (Batch.ends_append_perm m b c).append_left _

include h

theorem snoc (x : Absorbed) : Recounted (past ++ [x]) (past' ++ [x]) where
  activities := by rw [activities_snoc, activities_snoc, h.activities]
  passives := by rw [passives_snoc, passives_snoc, h.passives]
  ends := by
    rw [ends_snoc, ends_snoc]
    exact h.ends.append_right _

theorem nodeOf : past.nodeOf = past'.nodeOf := by
  funext ⟨kind, n⟩
  cases kind with
  | activity => simp only [History.nodeOf, History.standIn?, h.activities]
  | passiveEntity => simp only [History.nodeOf, History.standIn?, h.passives]
  | dynamicScope => rfl

theorem messages : past.messages.counts.entries.Perm past'.messages.counts.entries :=
  Tally.entries_run_perm (h.ends.map _) Tally.empty

theorem messageLinks : past.messageLinks.counts.entries.Perm past'.messageLinks.counts.entries := by
  rw [History.messageLinks, History.messageLinks, h.nodeOf]
  exact Tally.entries_run_perm ((Tally.increments_perm h.messages).map _) Tally.empty

theorem creationLinks : past.creationLinks = past'.creationLinks := by
  rw [History.creationLinks, History.creationLinks, h.nodeOf, creations, creations, h.activities, h.passives]

theorem links : past.links.Perm past'.links := by
  simp only [History.links, h.creationLinks, linksOf_eq]
  exact ((Tally.increments_perm h.messageLinks).map _).append_right _

end Recounted

end History

/-! ### Views that were counted in another order -/

namespace View

variable {v w : View} {past past' : History}

/-- Views that differ at most in the order in which pairs were first counted. -/
structure Twins (v w : View) (past past' : History) : Prop where
  left : v.Holds past
  right : w.Holds past'
  recounted : past.Recounted past'
  metaModel : v.metaModel = w.metaModel
  activities : v.activities = w.activities
  passives : v.passives = w.passives
  leftSends : v.maxSends = v.messages.max
  rightSends : w.maxSends = w.messages.max
  maxLink : v.maxLink = w.maxLink

namespace Twins

variable (h : Twins v w past past')
include h

theorem messages : v.messages.counts.entries.Perm w.messages.counts.entries := by
  rw [h.left.messages, h.right.messages]
  exact h.recounted.messages

theorem maxSends : v.maxSends = w.maxSends := by
  rw [h.leftSends, h.rightSends, Tally.max_eq_of_perm h.messages]

theorem eq_withCounts : w = v.withCounts w.messages w.maxSends := by
  obtain ⟨-, -, -, hmeta, hactivities, hpassives, -, -, hlink⟩ := h
  rw [withCounts, hmeta, hactivities, hpassives, hlink]

theorem stats : v.stats = w.stats := by
  rw [View.stats, View.stats, h.activities, h.passives, Tally.size_eq_of_perm h.messages,
    Tally.total_eq_of_perm h.messages]

theorem absorb (b : Batch) :
    (v.absorb b).answer = (w.absorb b).answer ∧
      Twins (v.absorb b).view (w.absorb b).view (remember v past (.ingest b))
        (remember w past' (.ingest b)) := by
  have hleft := h.left.absorb b
  have hright := h.right.absorb b
  have hleftSends := h.left.maxSends_absorb h.leftSends b
  have hrightSends := h.right.maxSends_absorb h.rightSends b
  have hcheck (m : MetaModel) : w.check m b = v.check m b := by
    rw [h.eq_withCounts]
    rfl
  cases hm : v.metaModel with
  | none =>
    have hm' : w.metaModel = none := h.metaModel.symm.trans hm
    rw [remember, remember, View.absorb, View.absorb, hm, hm']
    exact ⟨rfl, h⟩
  | some m =>
    have hm' : w.metaModel = some m := h.metaModel.symm.trans hm
    cases hv : v.check m b with
    | error e =>
      rw [remember, remember, absorb_of_check_error hm hv,
        absorb_of_check_error hm' ((hcheck m).trans hv), hm, hm']
      exact ⟨rfl, h⟩
    | ok =>
      obtain ⟨hok, hview⟩ := absorb_of_resolves hm ((check_eq_ok_iff v m b).1 hv)
      obtain ⟨hok', hview'⟩ := absorb_of_resolves hm' ((check_eq_ok_iff w m b).1 ((hcheck m).trans hv))
      rw [remember, hok, hview, hm] at hleft
      rw [remember, hok', hview', hm'] at hright
      rw [hview] at hleftSends
      rw [hview'] at hrightSends
      rw [remember, remember, hok, hok', hview, hview', hm, hm']
      refine ⟨rfl, hleft, hright, h.recounted.snoc _, ?_, ?_, ?_, hleftSends, hrightSends, ?_⟩
      · simp only [View.taken, foldl_countMessage_metaModel, h.metaModel]
      · simp only [View.taken, foldl_countMessage_activities, h.activities]
      · simp only [View.taken, foldl_countMessage_passives, h.passives]
      · simp only [View.taken, foldl_countMessage_maxLink, h.maxLink]

theorem settled (n : Int) :
    Twins { v.settled with maxLink := n } { w.settled with maxLink := n } past past' where
  left := h.left.settledWith n
  right := h.right.settledWith n
  recounted := h.recounted
  metaModel := h.metaModel
  activities := congrArg Population.settled h.activities
  passives := congrArg Population.settled h.passives
  leftSends := h.leftSends
  rightSends := h.rightSends
  maxLink := rfl

end Twins

/-- The same answer, but for the order of links. -/
inductive SameAnswer : Except Fault Answer → Except Fault Answer → Prop
  | refl (a : Except Fault Answer) : SameAnswer a a
  | links {ls ls' : List Link} (h : ls.Perm ls') : SameAnswer (.ok (.links ls)) (.ok (.links ls'))

/-- An operation answers the same on twins, but for the order of links, and leaves twins. -/
theorem Twins.step (h : Twins v w past past') (op : Op) :
    SameAnswer (op.run v).answer (op.run w).answer ∧
      Twins (op.run v).view (op.run w).view (remember v past op) (remember w past' op) := by
  by_cases hlinks : op = .links
  · subst hlinks
    obtain ⟨log, hlog⟩ := h.left.links
    obtain ⟨log', hlog'⟩ := h.right.links
    rw [← Tally.max_eq_of_perm h.recounted.messageLinks] at hlog'
    rw [Op.run, Op.run, hlog, hlog']
    exact ⟨.links h.recounted.links, h.settled past.messageLinks.max⟩
  · by_cases hop : op.counts = false
    · have hw := v.run_withCounts w.messages w.maxSends hop hlinks
      rw [← h.eq_withCounts] at hw
      have hleft := h.left.step op
      have hright := h.right.step op
      have hleftSends := h.left.maxSends_step h.leftSends op
      have hrightSends := h.right.maxSends_step h.rightSends op
      rw [remember_of_not_counts _ _ hop] at hleft hright
      rw [remember_of_not_counts _ _ hop, remember_of_not_counts _ _ hop]
      rw [hw] at hright hrightSends ⊢
      exact ⟨.refl _, hleft, hright, h.recounted, rfl, rfl, rfl, hleftSends, hrightSends, rfl⟩
    · cases op with
      | ingest b =>
        obtain ⟨hanswer, htwins⟩ := h.absorb b
        rw [Op.run, Op.run, hanswer]
        exact ⟨.refl _, htwins⟩
      | reset =>
        have hreset : w.reset = v.reset := congrArg new h.metaModel.symm
        rw [Op.run, Op.run, hreset]
        exact ⟨.refl _, holds_new _, holds_new _, .refl [], rfl, rfl, rfl, rfl, rfl, rfl⟩
      | _ => exact absurd rfl hop

theorem Twins.snapshot (h : Twins v w past past') :
    ∃ s log log', v.snapshot = .ok ({ v.settled with maxLink := past.messageLinks.max }, s, log) ∧
      w.snapshot = .ok ({ w.settled with maxLink := past.messageLinks.max },
        { s with links := past'.links.map Link.summary }, log') ∧
      s.links.Perm (past'.links.map Link.summary) := by
  obtain ⟨as, has⟩ := exists_mapM_eq_ok fun ref href => h.left.summary_settled (List.mem_append_left _ href)
  obtain ⟨bs, hbs⟩ := exists_mapM_eq_ok fun ref href => h.left.summary_settled (List.mem_append_right _ href)
  obtain ⟨log, hlog⟩ := h.left.snapshot_eq has hbs
  have hsummary : v.settled.summary = w.settled.summary :=
    summary_congr (congrArg Population.settled h.activities) (congrArg Population.settled h.passives)
  rw [hsummary, h.recounted.activities] at has
  rw [hsummary, h.recounted.passives] at hbs
  obtain ⟨log', hlog'⟩ := h.right.snapshot_eq has hbs
  rw [← Tally.max_eq_of_perm h.recounted.messageLinks, ← h.maxSends] at hlog'
  exact ⟨_, log, log', hlog, hlog', h.recounted.links.map _⟩

theorem Twins.call (h : Twins v w past past') (c : Call) :
    ∃ next next', Twins (c.run v) (c.run w) next next' := by
  cases c with
  | op o => exact ⟨_, _, (h.step o).2⟩
  | snapshot =>
    obtain ⟨s, log, log', hlog, hlog', -⟩ := h.snapshot
    rw [Call.run, Call.run, hlog, hlog']
    exact ⟨past, past', h.settled past.messageLinks.max⟩
  | stats => exact ⟨past, past', h⟩

/-- Twins stay twins whatever is called on both. -/
theorem Twins.after (h : Twins v w past past') (cs : List Call) :
    ∃ next next', Twins (after cs v) (after cs w) next next' := by
  induction cs generalizing v w past past' with
  | nil => exact ⟨past, past', h⟩
  | cons c cs ih =>
    obtain ⟨next, next', hcall⟩ := h.call c
    exact ih hcall

/-- Two batches are absorbed one after the other or joined to one. -/
theorem Holds.twins_taken (h : v.Holds past) (hsends : v.maxSends = v.messages.max) {m : MetaModel}
    {b c : Batch} (hb : ∀ r ∈ b.references, r.Resolves v m b)
    (hc : ∀ r ∈ c.references, r.Resolves (v.taken m b) m c) :
    Twins (v.taken m (b.append c)) ((v.taken m b).taken m c) (past ++ [⟨m, b.append c⟩])
      (past ++ [⟨m, b⟩] ++ [⟨m, c⟩]) where
  left := h.taken ((resolves_append_iff c hb).2 hc)
  right := (h.taken hb).taken hc
  recounted := .joined past m b c
  metaModel := by simp only [View.taken, foldl_countMessage_metaModel]
  activities := by
    simp only [View.taken, foldl_countMessage_activities, Batch.append, Population.announceAll_append]
  passives := by
    simp only [View.taken, foldl_countMessage_passives, Batch.append, Population.announceAll_append]
  leftSends := h.maxSends_taken hsends m _
  rightSends := (h.taken hb).maxSends_taken (h.maxSends_taken hsends m b) m c
  maxLink := by simp only [View.taken, foldl_countMessage_maxLink]

/-! ### Joined batches -/

/-- Views in which a client finds the same: nodes at the same places with the same members, the same
counters, and whatever is called, the same answers but for the order of links. -/
structure Agree (v w : View) : Prop where
  metaModel : v.metaModel = w.metaModel
  activities : v.activities = w.activities
  passives : v.passives = w.passives
  stats : v.stats = w.stats
  maxSends : v.maxSends = w.maxSends
  maxLink : v.maxLink = w.maxLink
  answers : ∀ op : Op, SameAnswer (op.run v).answer (op.run w).answer
  snapshot : ∃ v' w' s s' log log', v.snapshot = .ok (v', s, log) ∧ w.snapshot = .ok (w', s', log') ∧
    s.links.Perm s'.links ∧ s' = { s with links := s'.links }

theorem Twins.agree (h : Twins v w past past') : Agree v w where
  metaModel := h.metaModel
  activities := h.activities
  passives := h.passives
  stats := h.stats
  maxSends := h.maxSends
  maxLink := h.maxLink
  answers op := (h.step op).1
  snapshot := by
    obtain ⟨s, log, log', hlog, hlog', hlinks⟩ := h.snapshot
    exact ⟨_, _, s, _, log, log', hlog, hlog', hlinks, rfl⟩

/-- After a batch that is absorbed, another one is absorbed exactly if the two joined to one are; and then
both ways lead to the same view, now and whatever is called next. -/
theorem absorb_append (m : Option MetaModel) (ops : List Op) (b c : Batch)
    (hb : ((run ops (new m)).absorb b).answer = .ok ()) :
    let joined := (run ops (new m)).absorb (b.append c)
    let apart := ((run ops (new m)).absorb b).view.absorb c
    (joined.answer = .ok () ↔ apart.answer = .ok ()) ∧
      (joined.answer = .ok () → ∀ more : List Call, Agree (after more joined.view) (after more apart.view)) := by
  have h := holds_run m ops
  have hsends := maxSends_run m ops
  generalize run ops (new m) = v at h hsends hb ⊢
  generalize history m ops = past at h
  obtain ⟨model, hmodel, hresolves⟩ := (absorb_eq_ok_iff v b).1 hb
  have hview := (absorb_of_resolves hmodel hresolves).2
  have hmodel' : (v.taken model b).metaModel = some model := by
    simp only [taken, foldl_countMessage_metaModel, hmodel]
  intro joined apart
  have hjoined : joined.answer = .ok () ↔
      ∀ r ∈ (b.append c).references, r.Resolves v model (b.append c) := by
    rw [absorb_eq_ok_iff, hmodel]
    simp only [Option.some.injEq, exists_eq_left']
  have hapart : apart.answer = .ok () ↔ ∀ r ∈ c.references, r.Resolves (v.taken model b) model c := by
    rw [absorb_eq_ok_iff, hview, hmodel']
    simp only [Option.some.injEq, exists_eq_left']
  refine ⟨by rw [hjoined, hapart, resolves_append_iff c hresolves], fun hok more => ?_⟩
  have hc := (resolves_append_iff c hresolves).1 (hjoined.1 hok)
  have htwins := h.twins_taken hsends hresolves hc
  have hjoinedView : joined.view = v.taken model (b.append c) :=
    (absorb_of_resolves hmodel (hjoined.1 hok)).2
  have hapartView : apart.view = (v.taken model b).taken model c := by
    change ((v.absorb b).view.absorb c).view = _
    rw [hview]
    exact (absorb_of_resolves hmodel' hc).2
  rw [← hjoinedView, ← hapartView] at htwins
  obtain ⟨next, next', hafter⟩ := htwins.after more
  exact hafter.agree

/-- A batch that refers forward within itself, sends and receives, after five activities of one name. -/
def firstHalf : Batch :=
  ⟨[⟨6, "main", 0, some 7, true⟩, ⟨7, "worker", 0, some 1, true⟩], [⟨1, 0, ⟨"a", 1, 2, 3⟩, 6⟩],
    [⟨0, 6, 1⟩, ⟨0, 1, 6⟩], [⟨1, 7, 1⟩]⟩

/-- A batch that announces an id again and refers to things that came with the first half. -/
def secondHalf : Batch :=
  ⟨[⟨6, "worker", 0, some 7, true⟩], [⟨2, 0, ⟨"a", 1, 2, 3⟩, 7⟩], [⟨0, 6, 1⟩], [⟨1, 7, 2⟩, ⟨1, 6, 1⟩]⟩

/-- Five activities of one name, promoted by a listing. -/
def crowdRun : List Op :=
  [.ingest ⟨[⟨1, "worker", 0, none, true⟩, ⟨2, "worker", 0, some 1, true⟩, ⟨3, "worker", 0, some 1, true⟩,
      ⟨4, "worker", 0, some 1, true⟩, ⟨5, "worker", 0, some 1, true⟩], [], [], []⟩,
    .listActivities]

theorem absorb_append_halves :
    let m : MetaModel := ⟨Table.ofList [(0, .activity)], Table.ofList [(1, .passiveEntity)]⟩
    let v := run crowdRun (new m)
    let joined := v.absorb (firstHalf.append secondHalf)
    let apart := (v.absorb firstHalf).view.absorb secondHalf
    (v.absorb firstHalf).answer = .ok () ∧ joined.answer = .ok () ∧ apart.answer = .ok () ∧
      ∀ more : List Call, Agree (after more joined.view) (after more apart.view) := by
  intro m v joined apart
  have hfirst : (v.absorb firstHalf).answer = .ok () := by decide +kernel
  have hjoined : joined.answer = .ok () := by decide +kernel
  obtain ⟨hiff, hagree⟩ := absorb_append m crowdRun firstHalf secondHalf hfirst
  exact ⟨hfirst, hjoined, hiff.1 hjoined, hagree hjoined⟩

end View

end TraceGraph
