import TraceGraph.Proofs.Placement

/-! The coordinates of the nodes of a view. As long as no id is announced twice, all that an operation does
besides assigning leaves the nodes that are there in place, and a node that comes is placed by its seed. So
each node came with some operation, and the assignments since then tell where it stands. -/

namespace TraceGraph

open Announcements Traced

namespace View

variable {v : View} {past : History} {ref : NodeRef} {s : Position} {op : Op} {ops : List Op}

/-- Where a node stands, if it is there. -/
def place? (v : View) (ref : NodeRef) : Option Position := (v.node? ref).map AnyNode.position

theorem place?_eq_or (v : View) (ref : NodeRef) :
    v.place? ref = (v.activities.place? ref).or (v.passives.place? ref) := by
  rw [place?, node?_eq_or, Option.map_or, Option.map_map, Option.map_map]
  rfl

/-! ### Assignments -/

theorem place?_assign (v : View) (ref : NodeRef) (axis : Axis) (c : Number) (r : NodeRef) :
    (v.assign ref axis c).place? r = if r = ref then (v.place? r).map (·.set axis c) else v.place? r := by
  rw [place?, node?_assign]
  split
  · simp only [place?, Option.map_map, Function.comp_def, AnyNode.position_set]
  · rfl

theorem place?_assignAll (moves : Assignments) (v : View) (ref : NodeRef) :
    (v.assignAll moves).place? ref = (v.place? ref).map (·.setAll (moves.to ref)) := by
  induction moves generalizing v with
  | nil => exact Option.map_id'.symm
  | cons m moves ih =>
    have hcons : Assignments.to (m :: moves) ref = Assignments.to [m] ref ++ Assignments.to moves ref :=
      Assignments.to_append [m] moves ref
    change ((v.assign m.1 m.2.1 m.2.2).assignAll moves).place? ref = _
    rw [ih, place?_assign, hcons]
    split
    · next href =>
      rw [href, Assignments.to_self, Option.map_map]
      rfl
    · next href => rw [Assignments.to_of_ne (Ne.symm href), List.nil_append]

/-! ### Operations -/

/-- Whether an operation lists the nodes of a kind or reads the links. What goes to a node by its data id
finds the node in the listings. -/
def Op.reads (kind : Kind) : Op → Bool
  | .listActivities => kind = .activity
  | .listPassives => kind = .passiveEntity
  | .links | .find _ | .move .. | .setRunning .. => true
  | .ingest _ | .setMetaModel _ | .reset | .visible _ => false

/-- What an operation makes of a view but for assignments and running flags: a batch is absorbed, and a read
promotes what is crowded. -/
def Op.base (v : View) : Op → View
  | .ingest b => (v.absorb b).view
  | .reset => v.reset
  | .listActivities => { v with activities := v.activities.settled }
  | .listPassives => { v with passives := v.passives.settled }
  | .links | .find _ | .move .. | .setRunning .. => v.settled
  | .setMetaModel _ | .visible _ => v

theorem Holds.listed_eq_settled (h : v.Holds past) (hids : past.Distinct) : v.listed = v.settled := by
  rw [View.listed, View.settled, h.activities.listed_eq_settled hids.activities,
    h.passives.listed_eq_settled hids.passives]

theorem Holds.place?_setRunning (h : v.Holds past) (ref : NodeRef) (ids : List Int) (running : Bool)
    (r : NodeRef) : (v.setRunning ref ids running).place? r = v.place? r := by
  have hflagged {q : Population Activity} (hq : Population.Flagged v.activities q) :
      View.place? { v with activities := q } r = v.place? r := by
    rw [place?_eq_or, place?_eq_or, h.activities.place?_flagged hq]
  unfold View.setRunning
  split
  · split
    · exact hflagged (Population.flagged_setOwnRunning _ _ running)
    · rfl
  · exact hflagged (Population.flagged_setGroupRunning _ _ ids running)
  · rfl

/-- Besides what it makes of the view, an operation moves nodes by its assignments alone. -/
theorem Holds.place?_run (h : v.Holds past) (hids : past.Distinct) (op : Op) (ref : NodeRef) :
    (op.run v).view.place? ref =
      ((op.base v).place? ref).map (·.setAll ((op.assignments v).to ref)) := by
  have hstill (o : Option Position) : o = o.map (·.setAll (Assignments.to [] ref)) := Option.map_id'.symm
  have hlisted := h.listed_eq_settled hids
  rw [h.view_run op]
  cases op with
  | ingest | setMetaModel | reset | visible | links => exact hstill _
  | listActivities =>
    rw [Op.effect, h.activities.listed_eq_settled hids.activities]
    exact hstill _
  | listPassives =>
    rw [Op.effect, h.passives.listed_eq_settled hids.passives]
    exact hstill _
  | find dataId =>
    rw [Op.effect, hlisted]
    exact hstill _
  | move dataId x y =>
    rw [Op.effect, h.view_move_eq, hlisted]
    exact place?_assignAll _ _ ref
  | setRunning dataId ids running =>
    rw [Op.effect, hlisted]
    refine Eq.trans ?_ (hstill _)
    cases past.nodes.find? (·.dataId = dataId) with
    | none => rfl
    | some r => exact h.settled.place?_setRunning r ids running ref

/-! ### One kind of things -/

/-- What a view, a history and a batch have of one kind of things. -/
structure Part (α : Type) [Traced α] where
  population : View → Population α
  announced : History → List α
  ofBatch : Batch → List α
  limit : Int
  limit_nonneg : 0 ≤ limit
  holds {v : View} {past : History} : v.Holds past → (population v).Holds limit (announced past)
  place? (v : View) {ref : NodeRef} : ref.kind = Traced.kind α → v.place? ref = (population v).place? ref
  append (past more : History) : announced (past ++ more) = announced past ++ announced more
  singleton (m : MetaModel) (b : Batch) : announced [⟨m, b⟩] = ofBatch b
  nodup {past : History} : past.Distinct → ((announced past).map Traced.id).Nodup
  taken (v : View) (m : MetaModel) (b : Batch) :
    population (v.taken m b) = Population.announceAll (ofBatch b) (population v)
  base (v : View) {op : Op} : (∀ b, op ≠ .ingest b) → op ≠ .reset →
    population (op.base v) = if op.reads (Traced.kind α) then (population v).settled else population v

namespace Part

def activities : Part Activity where
  population := View.activities
  announced := History.activities
  ofBatch := Batch.activities
  limit := activityThreshold
  limit_nonneg := by decide
  holds h := h.activities
  place? v ref href := by
    have hother : v.passives.place? ref = none := Population.place?_of_other_kind (by rw [href]; decide)
    rw [place?_eq_or, hother, Option.or_none]
  append _ _ := History.activities_append
  singleton m b := by simp [History.activities]
  nodup h := h.activities
  taken v m b := by rw [View.taken, foldl_countMessage_activities]
  base v op hingest hreset := by
    cases op with
    | ingest b => exact absurd rfl (hingest b)
    | reset => exact absurd rfl hreset
    | _ => rfl

def passives : Part PassiveEntity where
  population := View.passives
  announced := History.passives
  ofBatch := Batch.passiveEntities
  limit := passiveThreshold
  limit_nonneg := by decide
  holds h := h.passives
  place? v ref href := by
    have hother : v.activities.place? ref = none := Population.place?_of_other_kind (by rw [href]; decide)
    rw [place?_eq_or, hother, Option.none_or]
  append _ _ := History.passives_append
  singleton m b := by simp [History.passives]
  nodup h := h.passives
  taken v m b := by rw [View.taken, foldl_countMessage_passives]
  base v op hingest hreset := by
    cases op with
    | ingest b => exact absurd rfl (hingest b)
    | reset => exact absurd rfl hreset
    | _ => rfl

variable {α : Type} [Traced α] (part : Part α)

/-- What an operation but a reset makes of the things of one kind: nothing, or a batch announces further
ones, or a read promotes their crowded groups. -/
theorem base_cases (v : View) (past : History) (hop : op ≠ .reset) :
    part.population (op.base v) = part.population v ∨
      (∃ m b, op = .ingest b ∧ (v.absorb b).answer = .ok () ∧ remember v past op = past ++ [⟨m, b⟩] ∧
        part.population (op.base v) = Population.announceAll (part.ofBatch b) (part.population v)) ∨
      op.reads (Traced.kind α) ∧ part.population (op.base v) = (part.population v).settled := by
  by_cases hingest : ∃ b, op = .ingest b
  · obtain ⟨b, rfl⟩ := hingest
    obtain ⟨hview, -⟩ | ⟨m, -, hok, hview, hpast⟩ := v.absorb_cases past b
    · exact .inl (congrArg part.population hview)
    · exact .inr (.inl ⟨m, b, rfl, hok, hpast, (congrArg part.population hview).trans (part.taken v m b)⟩)
  · have hbase := part.base v (fun b hb => hingest ⟨b, hb⟩) hop
    split at hbase
    · next hreads => exact .inr (.inr ⟨hreads, hbase⟩)
    · exact .inl hbase

theorem nodup_append {m : MetaModel} {b : Batch} (hids : History.Distinct (past ++ [⟨m, b⟩])) :
    ((part.announced past ++ part.ofBatch b).map Traced.id).Nodup := by
  rw [← part.singleton m b, ← part.append]
  exact part.nodup hids

/-- A node that is there stays where it is, but for assignments. -/
theorem place?_base (h : v.Holds past) (hop : op ≠ .reset) (hids : (remember v past op).Distinct)
    (hs : (part.population v).place? ref = some s) : (part.population (op.base v)).place? ref = some s := by
  obtain hbase | ⟨m, b, -, -, hpast, hbase⟩ | ⟨-, hbase⟩ := part.base_cases v past hop <;> rw [hbase]
  · exact hs
  · rw [hpast] at hids
    exact (part.holds h).place?_announceAll_of_some (part.nodup_append hids) hs
  · exact (part.holds h).place?_settled hs

/-- An own node comes with the batch that announces the thing, and a group's node with a read when the group
is crowded. -/
theorem seed_of_place?_base (h : v.Holds past) (hop : op ≠ .reset) (hids : (remember v past op).Distinct)
    (hnone : (part.population v).place? ref = none) (hs : (part.population (op.base v)).place? ref = some s) :
    (∃ b pre a post, op = .ingest b ∧ (v.absorb b).answer = .ok () ∧ part.ofBatch b = pre ++ a :: post ∧
      ref = Population.ownRef a ∧
      s = .seed (sharing (part.announced past ++ pre ++ [a]) (Traced.key a)).length
        (keys (part.announced past ++ pre)).length) ∨
    op.reads (Traced.kind α) ∧ ∃ key, Crowded part.limit (part.announced past) key ∧
      ref = .group (Traced.kind α) (number (part.announced past) key) ∧
      s = .seed (sharing (part.announced past) key).length (keys (part.announced past)).length := by
  obtain hbase | ⟨m, b, rfl, hok, hpast, hbase⟩ | ⟨hreads, hbase⟩ := part.base_cases v past hop <;>
    rw [hbase] at hs
  · cases hnone.symm.trans hs
  · rw [hpast] at hids
    obtain ⟨pre, a, post, hb, href, hseed⟩ :=
      (part.holds h).seed_of_place?_announceAll (part.nodup_append hids) hnone hs
    exact .inl ⟨b, pre, a, post, rfl, hok, hb, href, hseed⟩
  · exact .inr ⟨hreads, (part.holds h).seed_of_place?_settled hnone hs⟩

end Part

/-! ### Runs -/

theorem kind_of_place? (hs : v.place? ref = some s) : ref.kind = .activity ∨ ref.kind = .passiveEntity := by
  cases hkind : ref.kind with
  | activity => exact .inl rfl
  | passiveEntity => exact .inr rfl
  | dynamicScope =>
    have hactivities : v.activities.place? ref = none := Population.place?_of_other_kind (by rw [hkind]; decide)
    have hpassives : v.passives.place? ref = none := Population.place?_of_other_kind (by rw [hkind]; decide)
    rw [place?_eq_or, hactivities, hpassives] at hs
    cases hs

/-- But for its assignments, an operation other than a reset leaves a node where it is. -/
theorem Holds.place?_base (h : v.Holds past) (hop : op ≠ .reset) (hids : (remember v past op).Distinct)
    (hs : v.place? ref = some s) : (op.base v).place? ref = some s := by
  obtain hkind | hkind := kind_of_place? hs
  · rw [Part.activities.place? _ hkind] at hs ⊢
    exact Part.activities.place?_base h hop hids hs
  · rw [Part.passives.place? _ hkind] at hs ⊢
    exact Part.passives.place?_base h hop hids hs

theorem Holds.place?_step (h : v.Holds past) (hop : op ≠ .reset) (hids : (remember v past op).Distinct)
    (hs : v.place? ref = some s) :
    (op.run v).view.place? ref = some (s.setAll ((op.assignments v).to ref)) := by
  obtain ⟨more, hmore⟩ := exists_remember_eq v past hop
  rw [h.place?_run (hmore ▸ hids).of_append, h.place?_base hop hids hs, Option.map_some]

theorem Holds.place?_run_of_some (h : v.Holds past) (hops : .reset ∉ ops)
    (hids : (historyAfter ops v past).Distinct) (hs : v.place? ref = some s) :
    (View.run ops v).place? ref = some (s.setAll ((assignmentsIn ops v).to ref)) := by
  induction ops generalizing v past s with
  | nil => exact hs
  | cons op ops ih =>
    rw [List.mem_cons, not_or] at hops
    have hnow : (remember v past op).Distinct := by
      obtain ⟨more, hmore⟩ := exists_historyAfter_eq (op.run v).view (remember v past op)
        fun o ho => ne_of_mem_of_not_mem ho hops.2
      rw [historyAfter, hmore] at hids
      exact hids.of_append
    rw [run_cons, ih (h.step op) hops.2 hids (h.place?_step (Ne.symm hops.1) hnow hs), assignmentsIn,
      Assignments.to_append, Position.setAll_append]

theorem assignmentsIn_append (ops more : List Op) (v : View) :
    assignmentsIn (ops ++ more) v = assignmentsIn ops v ++ assignmentsIn more (run ops v) := by
  induction ops generalizing v with
  | nil => rfl
  | cons op ops ih => rw [List.cons_append, assignmentsIn, ih, assignmentsIn, List.append_assoc, run_cons]

theorem place?_new (m : Option MetaModel) (ref : NodeRef) : (new m).place? ref = none := by
  cases hs : (new m).place? ref with
  | none => rfl
  | some s =>
    rcases ref with ⟨kind, id⟩ | ⟨kind, n⟩ <;> cases kind <;> cases hs

/-- Each node came with some operation after which there was no reset, and stands where that operation's
seed placed it, but for the coordinates that were assigned to it from then on. -/
theorem exists_origin (m : Option MetaModel) (hids : (history m ops).Distinct)
    (hs : (run ops (new m)).place? ref = some s) :
    ∃ before op after place, ops = before ++ op :: after ∧ .reset ∉ op :: after ∧
      (run before (new m)).place? ref = none ∧ (op.base (run before (new m))).place? ref = some place ∧
      s = place.setAll ((assignmentsIn (op :: after) (run before (new m))).to ref) := by
  induction ops using List.reverseRecOn generalizing s with
  | nil => cases (place?_new m ref).symm.trans hs
  | append_singleton ops op ih =>
    have h := holds_run m ops
    rw [run_snoc] at hs
    have hop : op ≠ .reset := by
      rintro rfl
      cases (place?_new (run ops (new m)).metaModel ref).symm.trans hs
    have hsingle : .reset ∉ [op] := fun hmem => hop (List.mem_singleton.1 hmem).symm
    have hpast := distinct_of_append hsingle hids
    -- the last operation brought the node, or the node was there and is only moved by what is assigned
    cases hold : (run ops (new m)).place? ref with
    | none =>
      rw [h.place?_run hpast] at hs
      obtain ⟨place, hplace, rfl⟩ := Option.map_eq_some_iff.1 hs
      refine ⟨ops, op, [], place, rfl, hsingle, hold, hplace, ?_⟩
      rw [assignmentsIn, assignmentsIn, List.append_nil]
    | some s' =>
      obtain ⟨before, o, after, place, hops, hafter, hnone, hplace, rfl⟩ := ih hpast hold
      rw [history_snoc] at hids
      rw [h.place?_step hop hids hold] at hs
      refine ⟨before, o, after ++ [op], place, by rw [hops, List.append_assoc, List.cons_append], ?_, hnone,
        hplace, ?_⟩
      · rw [← List.cons_append, List.mem_append, not_or]
        exact ⟨hafter, hsingle⟩
      · rw [← List.cons_append, assignmentsIn_append, ← run_append, ← hops, Assignments.to_append,
          Position.setAll_append, assignmentsIn, assignmentsIn, List.append_nil]
        exact (Option.some.inj hs).symm

end View

end TraceGraph
