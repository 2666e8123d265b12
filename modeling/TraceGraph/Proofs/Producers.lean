import TraceGraph.Proofs.Counters

/-! Independent producers commute. Batches of two producers that announce different ids, each accepted
without the other's, are accepted in whatever way they interleave and whatever is read in between: a view
that knows more accepts as much. The histories that result have the same announcements and messages in
another order, so the graphs are the same but for the numbers of groups, orders and places. -/

namespace TraceGraph

open Announcements

/-- The elements of two lists, those of each in their order. -/
inductive Shuffle {α : Type} : List α → List α → List α → Prop
  | nil : Shuffle [] [] []
  | left {ps qs as : List α} (a : α) (h : Shuffle ps qs as) : Shuffle (a :: ps) qs (a :: as)
  | right {ps qs as : List α} (a : α) (h : Shuffle ps qs as) : Shuffle ps (a :: qs) (a :: as)

theorem Shuffle.perm {α : Type} {ps qs as : List α} (h : Shuffle ps qs as) : (ps ++ qs).Perm as := by
  induction h with
  | nil => exact .refl []
  | left a _ ih => exact ih.cons a
  | right a _ ih => exact List.perm_middle.trans (ih.cons a)

/-! ### Histories of the same batches -/

namespace History

variable {past : History} {m : MetaModel} {bs cs : List Batch}

theorem activities_batches (past : History) (m : MetaModel) (bs : List Batch) :
    activities (past ++ bs.map (Absorbed.mk m)) = past.activities ++ bs.flatMap Batch.activities := by
  rw [activities, activities, List.flatMap_append, List.flatMap_map]

theorem passives_batches (past : History) (m : MetaModel) (bs : List Batch) :
    passives (past ++ bs.map (Absorbed.mk m)) = past.passives ++ bs.flatMap Batch.passiveEntities := by
  rw [passives, passives, List.flatMap_append, List.flatMap_map]

/-- Batches of distinct ids may be absorbed in any order. -/
theorem Reordered.batches (past : History) (m : MetaModel) (h : bs.Perm cs)
    (hactivities : ((bs.flatMap Batch.activities).map Activity.id).Nodup)
    (hpassives : ((bs.flatMap Batch.passiveEntities).map PassiveEntity.id).Nodup) :
    Reordered (past ++ bs.map (Absorbed.mk m)) (past ++ cs.map (Absorbed.mk m)) where
  activities := by
    rw [activities_batches, activities_batches]
    exact .append past.activities (h.flatMap_right _) hactivities
  passives := by
    rw [passives_batches, passives_batches]
    exact .append past.passives (h.flatMap_right _) hpassives
  ends := (((h.map _).append_left past).flatMap_right _).filterMap _

end History

namespace View

variable {p q v w : View} {past : History} {bs : List Batch}

/-! ### What a view that knows more accepts -/

/-- One view knows no more than another. -/
structure Within (v w : View) : Prop where
  metaModel : v.metaModel = w.metaModel
  activities : v.activities.table.keys ⊆ w.activities.table.keys
  passives : v.passives.table.keys ⊆ w.passives.table.keys

namespace Within

theorem refl (v : View) : Within v v := ⟨rfl, List.Subset.refl _, List.Subset.refl _⟩

theorem trans {u : View} (h : Within u v) (h' : Within v w) : Within u w :=
  ⟨h.metaModel.trans h'.metaModel, List.Subset.trans h.activities h'.activities,
    List.Subset.trans h.passives h'.passives⟩

variable (h : Within v w)
include h

theorem known {b : Batch} {e : EntityRef} (he : v.Known b e) : w.Known b e := by
  obtain ⟨kind, id⟩ := e
  cases kind with
  | activity => exact he.imp_left fun hid => h.activities hid
  | passiveEntity => exact he.imp_left fun hid => h.passives hid
  | dynamicScope => exact he

theorem taken (m : MetaModel) (b : Batch) : Within (v.taken m b) (w.taken m b) where
  metaModel := by simp only [View.taken, foldl_countMessage_metaModel, h.metaModel]
  activities id hid := by
    simp only [View.taken, foldl_countMessage_activities, Population.mem_keys_announceAll] at hid ⊢
    exact hid.imp_left fun hid => h.activities hid
  passives id hid := by
    simp only [View.taken, foldl_countMessage_passives, Population.mem_keys_announceAll] at hid ⊢
    exact hid.imp_left fun hid => h.passives hid

/-- What is accepted is accepted by a view that knows more, and it knows more afterwards too. -/
theorem absorb {b : Batch} (hok : (v.absorb b).answer = .ok ()) :
    (w.absorb b).answer = .ok () ∧ Within (v.absorb b).view (w.absorb b).view := by
  obtain ⟨m, hm, hall⟩ := (absorb_eq_ok_iff v b).1 hok
  have hm' : w.metaModel = some m := h.metaModel.symm.trans hm
  obtain ⟨hok', hview'⟩ := absorb_of_resolves hm' fun r hr => (hall r hr).mono fun e he => h.known he
  refine ⟨hok', ?_⟩
  rw [hview', (absorb_of_resolves hm hall).2]
  exact h.taken m b

end Within

theorem within_taken (v : View) (m : MetaModel) (b : Batch) : Within v (v.taken m b) where
  metaModel := by simp only [taken, foldl_countMessage_metaModel]
  activities id hid := by
    simp only [taken, foldl_countMessage_activities, Population.mem_keys_announceAll]
    exact .inl hid
  passives id hid := by
    simp only [taken, foldl_countMessage_passives, Population.mem_keys_announceAll]
    exact .inl hid

theorem within_absorb (v : View) (b : Batch) : Within v (v.absorb b).view := by
  obtain hview | ⟨m, hview⟩ := v.absorb_view b
  · rw [hview]
    exact .refl v
  · rw [hview]
    exact within_taken v m b

/-! ### Batches one after the other -/

/-- Whether batches that are ingested one after the other are all accepted. -/
def Accepts (v : View) (bs : List Batch) : Prop :=
  ∀ a ∈ answers (bs.map .ingest) v, a.isOk = true

instance (v : View) (bs : List Batch) : Decidable (v.Accepts bs) :=
  inferInstanceAs (Decidable (∀ a ∈ answers (bs.map .ingest) v, a.isOk = true))

theorem accepts_cons {b : Batch} :
    v.Accepts (b :: bs) ↔ (v.absorb b).answer = .ok () ∧ (v.absorb b).view.Accepts bs := by
  rw [Accepts, List.map_cons, answers, List.forall_mem_cons]
  refine and_congr ?_ Iff.rfl
  rw [Op.run]
  rcases (v.absorb b).answer with e | ⟨⟩ <;> simp [Except.map, Except.mapError, Except.isOk, Except.toBool]

/-- Producers whose batches are accepted without the other's are accepted together. -/
theorem accepts_of_shuffle {ps qs : List Batch} (h : Shuffle ps qs bs) (hp : Within p v) (hq : Within q v)
    (hps : p.Accepts ps) (hqs : q.Accepts qs) : v.Accepts bs := by
  induction h generalizing p q v with
  | nil => exact hps
  | left b _ ih =>
    obtain ⟨hok, hrest⟩ := accepts_cons.1 hps
    obtain ⟨hok', hwithin⟩ := hp.absorb hok
    exact accepts_cons.2 ⟨hok', ih hwithin (hq.trans (within_absorb v b)) hrest hqs⟩
  | right b _ ih =>
    obtain ⟨hok, hrest⟩ := accepts_cons.1 hqs
    obtain ⟨hok', hwithin⟩ := hq.absorb hok
    exact accepts_cons.2 ⟨hok', ih (hp.trans (within_absorb v b)) hwithin hps hrest⟩

/-- The history after batches that are all accepted. -/
theorem historyAfter_ingests {m : MetaModel} (hm : ∀ m', v.metaModel = some m' → m' = m)
    (h : v.Accepts bs) :
    historyAfter (bs.map .ingest) v past = past ++ bs.map (Absorbed.mk m) := by
  induction bs generalizing v past with
  | nil => exact (List.append_nil past).symm
  | cons b bs ih =>
    obtain ⟨hok, hrest⟩ := accepts_cons.1 h
    obtain ⟨m', hm', -⟩ := (absorb_eq_ok_iff v b).1 hok
    obtain rfl := hm m' hm'
    have hmodel : (v.absorb b).view.metaModel = some m' := (within_absorb v b).metaModel.symm.trans hm'
    have hrun : ((Op.ingest b).run v).view = (v.absorb b).view := rfl
    rw [List.map_cons, historyAfter, remember, hm', hok, hrun, ih ?_ hrest, List.append_assoc]
    · rfl
    · intro m'' hm''
      exact Option.some.inj (hm''.symm.trans hmodel)

/-! ### Producers -/

/-- Calls that ingest the batches of two producers, each in its order, with any reads in between. -/
def Interleaves (ps qs : List Batch) (cs : List Call) : Prop :=
  ∃ bs, Shuffle ps qs bs ∧ cs.filterMap Call.change? = bs.map .ingest

theorem Holds.interleaved (h : v.Holds past) (hsends : v.maxSends = v.messages.max) {m : MetaModel}
    (hm : ∀ m', v.metaModel = some m' → m' = m) {cs : List Call}
    (hcs : cs.filterMap Call.change? = bs.map .ingest) (hbs : v.Accepts bs) :
    (after cs v).Holds (past ++ bs.map (Absorbed.mk m)) ∧
      (after cs v).maxSends = (History.messages (past ++ bs.map (Absorbed.mk m))).max := by
  obtain ⟨-, halike⟩ := h.alike_self.calls cs
  rw [hcs, historyAfter_ingests hm hbs] at halike
  refine ⟨halike.left, ?_⟩
  rw [halike.maxSends, h.maxSends_run hsends, halike.right.messages]
  rfl

/-- Two producers that announce different ids, each accepted in a view without the other, are accepted
however their batches interleave and whatever is read in between, and the snapshots at the end are the
same but for the numbers of groups, orders and places, with the same counters. -/
theorem producers_commute (m : Option MetaModel) (ops : List Op) (ps qs : List Batch)
    (hactivities : (((ps ++ qs).flatMap Batch.activities).map Activity.id).Nodup)
    (hpassives : (((ps ++ qs).flatMap Batch.passiveEntities).map PassiveEntity.id).Nodup)
    (hps : (run ops (new m)).Accepts ps) (hqs : (run ops (new m)).Accepts qs) {cs ds : List Call}
    (hcs : Interleaves ps qs cs) (hds : Interleaves ps qs ds) :
    (∀ a ∈ outcomes cs (run ops (new m)), a.isOk = true) ∧
    ∃ ρ v w s s' log log', (after cs (run ops (new m))).snapshot = .ok (v, s, log) ∧
      (after ds (run ops (new m))).snapshot = .ok (w, s', log') ∧ s.Renumbered ρ s' ∧
      v.stats = w.stats := by
  have h := holds_run m ops
  have hsends := maxSends_run m ops
  generalize run ops (new m) = v at h hsends hps hqs ⊢
  generalize history m ops = past at h
  obtain ⟨model, hmodel⟩ : ∃ model, ∀ m', v.metaModel = some m' → m' = model := by
    cases v.metaModel with
    | none => exact ⟨⟨Table.empty, Table.empty⟩, nofun⟩
    | some model => exact ⟨model, fun m' hm' => (Option.some.inj hm').symm⟩
  obtain ⟨bs, hbs, hchanges⟩ := hcs
  obtain ⟨bs', hbs', hchanges'⟩ := hds
  have haccepts := accepts_of_shuffle hbs (.refl v) (.refl v) hps hqs
  obtain ⟨hleft, hleftSends⟩ := h.interleaved hsends hmodel hchanges haccepts
  obtain ⟨hright, hrightSends⟩ := h.interleaved hsends hmodel hchanges'
    (accepts_of_shuffle hbs' (.refl v) (.refl v) hps hqs)
  constructor
  · rw [(h.alike_self.calls cs).1, hchanges]
    exact haccepts
  · have hids := ((hbs.perm.flatMap_right Batch.activities).map Activity.id).nodup_iff.1 hactivities
    have hids' :=
      ((hbs.perm.flatMap_right Batch.passiveEntities).map PassiveEntity.id).nodup_iff.1 hpassives
    obtain ⟨ρ, hρ⟩ := (History.Reordered.batches past model (hbs.perm.symm.trans hbs'.perm)
      hids hids').exists_renumbering
    have hmax : (after cs v).maxSends = (after ds v).maxSends := by
      rw [hleftSends, hrightSends, Tally.max_eq_of_perm hρ.messages]
    obtain ⟨s, s', log, log', hlog, hlog', hsame⟩ := hleft.snapshot_renumbered hright hρ hmax
    refine ⟨ρ, _, _, s, s', log, log', hlog, hlog', hsame, ?_⟩
    exact hleft.stats_settled.trans (hρ.stats.trans hright.stats_settled.symm)

/-- A producer of one more activity of the crowd and of a passive entity. -/
def firstProducer : List Batch :=
  [⟨[⟨10, "loader", 0, some 1, true⟩, ⟨11, "worker", 0, some 10, true⟩], [], [⟨0, 10, 1⟩], []⟩,
    ⟨[], [⟨20, 0, ⟨"a", 1, 2, 3⟩, 10⟩], [⟨0, 11, 2⟩], [⟨1, 10, 20⟩]⟩]

/-- A producer that adds to the same crowd and sends to the same activity. -/
def secondProducer : List Batch :=
  [⟨[⟨12, "main", 0, none, true⟩, ⟨13, "worker", 0, some 12, true⟩], [], [⟨0, 12, 1⟩], []⟩,
    ⟨[⟨14, "worker", 0, some 13, true⟩], [⟨21, 0, ⟨"a", 1, 2, 3⟩, 14⟩], [⟨0, 13, 1⟩], [⟨1, 14, 21⟩]⟩]

/-- The batches of both in turn, with reads in between. -/
def inTurn : List Call :=
  (firstProducer.zip secondProducer).flatMap fun b =>
    [.op (.ingest b.1), .snapshot, .op (.ingest b.2), .op (.find "ag0")]

/-- The second before the first, without reads. -/
def oneAfterOther : List Call := (secondProducer ++ firstProducer).map fun b => .op (.ingest b)

theorem producers_commute_inTurn :
    let m : MetaModel := ⟨Table.ofList [(0, .activity)], Table.ofList [(1, .passiveEntity)]⟩
    let v := run crowdRun (new m)
    Interleaves firstProducer secondProducer inTurn ∧
    Interleaves firstProducer secondProducer oneAfterOther ∧
    (∀ a ∈ outcomes inTurn v, a.isOk = true) ∧
    ∃ ρ u w s s' log log', (after inTurn v).snapshot = .ok (u, s, log) ∧
      (after oneAfterOther v).snapshot = .ok (w, s', log') ∧ s.Renumbered ρ s' ∧ u.stats = w.stats := by
  intro m v
  have hturn : Interleaves firstProducer secondProducer inTurn :=
    ⟨_, .left _ (.right _ (.left _ (.right _ .nil))), rfl⟩
  have hafter : Interleaves firstProducer secondProducer oneAfterOther :=
    ⟨_, .right _ (.right _ (.left _ (.left _ .nil))), rfl⟩
  have hfirst : v.Accepts firstProducer := by decide +kernel
  have hsecond : v.Accepts secondProducer := by decide +kernel
  exact ⟨hturn, hafter, producers_commute m crowdRun firstProducer secondProducer (by decide) (by decide)
    hfirst hsecond hturn hafter⟩

end View

end TraceGraph
