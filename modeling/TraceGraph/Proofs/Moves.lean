import TraceGraph.Proofs.Consistency
import TraceGraph.Proofs.Coordinates

/-! Only assignments move nodes. As long as no id is announced twice, each node is told by the operation that
brought it, which placed it by what was announced until then, and by the moves that found it since. A
snapshot shows every node that is listed where it stands. -/

namespace TraceGraph

open Announcements Sequence Traced

theorem History.DistinctIds.distinct {past : History} (h : past.DistinctIds) : past.Distinct := by
  obtain ⟨hactivities, hpassives, -⟩ := List.nodup_append.1 h
  exact ⟨hactivities, hpassives⟩

namespace View

variable {v : View} {past : History} {ref : NodeRef} {s : Position} {op : Op} {ops : List Op}

/-! ### Own nodes and nodes of groups -/

namespace Part

variable {α : Type} [Traced α] (part : Part α) {m : Option MetaModel}

/-- The own node of a thing came with the batch that announced the thing. It was placed by the rank of the
thing among those of its key and by the number of keys before it, and moved from there on. -/
def OwnPlaced (m : Option MetaModel) (ops : List Op) (id : Int) (p : Position) : Prop :=
  ∃ before b after pre a post, ops = before ++ .ingest b :: after ∧ .reset ∉ after ∧
    ((run before (new m)).absorb b).answer = .ok () ∧ part.ofBatch b = pre ++ a :: post ∧ Traced.id a = id ∧
    let earlier := part.announced (history m before) ++ pre
    p = .movedFrom (100 + 100 * (sharing (earlier ++ [a]) (Traced.key a)).length) (100 * (keys earlier).length)
      ((assignmentsIn after (run (before ++ [.ingest b]) (new m))).to (.entity ⟨Traced.kind α, id⟩))

/-- The node of a group came with the first read of the group as a crowded one. It was placed by the
population of the group and by the number of groups then, and moved from there on. -/
def GroupPlaced (m : Option MetaModel) (ops : List Op) (n : Nat) (p : Position) : Prop :=
  ∃ before op after key, ops = before ++ op :: after ∧ .reset ∉ op :: after ∧ op.reads (Traced.kind α) ∧
    let now := part.announced (history m before)
    Crowded part.limit now key ∧ number now key = n ∧
    (∀ front read rest, before = front ++ read :: rest → .reset ∉ rest → read.reads (Traced.kind α) →
      ¬ Crowded part.limit (part.announced (history m front)) key) ∧
    p = .movedFrom (100 + 100 * (sharing now key).length) (100 * (keys now).length)
      ((assignmentsIn (op :: after) (run before (new m))).to (.group (Traced.kind α) n))

theorem own_placed (hids : (history m ops).Distinct) {id : Int}
    (hs : (run ops (new m)).place? (.entity ⟨Traced.kind α, id⟩) = some s) : part.OwnPlaced m ops id s := by
  obtain ⟨before, op, after, place, rfl, hreset, hnone, hplace, rfl⟩ := exists_origin m hids hs
  obtain ⟨hop, hafter⟩ := List.ne_and_not_mem_of_not_mem_cons hreset
  have hnow := distinct_remember hafter hids
  rw [part.place? _ rfl] at hnone hplace
  obtain ⟨b, pre, a, post, rfl, hok, hb, href, rfl⟩ | ⟨-, key, -, href, -⟩ :=
    part.seed_of_place?_base (holds_run m before) (Ne.symm hop) hnow hnone hplace
  · obtain rfl : id = Traced.id a := congrArg EntityRef.id (NodeRef.entity.inj href)
    refine ⟨before, b, after, pre, a, post, rfl, hafter, hok, hb, rfl, ?_⟩
    rw [Position.setAll_seed, run_snoc]
    rfl
  · cases href

/-- Once the things of a kind were read, a group that was crowded then has a node. -/
theorem exists_place?_of_read {front rest : List Op} (hreads : op.reads (Traced.kind α)) (hrest : .reset ∉ rest)
    (hids : (history m (front ++ op :: rest)).Distinct) {key : String}
    (hc : Crowded part.limit (part.announced (history m front)) key) :
    ∃ s, (run (front ++ op :: rest) (new m)).place?
      (.group (Traced.kind α) (number (part.announced (history m (front ++ op :: rest))) key)) = some s := by
  have h := holds_run m front
  have hop : op ≠ .reset := by
    rintro rfl
    cases hreads
  have hreset : .reset ∉ op :: rest := List.not_mem_cons_of_ne_of_not_mem (Ne.symm hop) hrest
  have hkey : key ∈ keys (part.announced (history m front)) := by
    obtain ⟨a, ha⟩ := List.exists_mem_of_length_pos (Int.natCast_pos.1 (part.limit_nonneg.trans_lt hc))
    obtain ⟨ha, hkey⟩ := List.mem_filter.1 ha
    exact mem_keys.2 ⟨a, ha, of_decide_eq_true hkey⟩
  have hbase : part.population (op.base (run front (new m))) = (part.population (run front (new m))).settled := by
    rw [part.base _ (by rintro b rfl; cases hreads) hop, if_pos hreads]
  obtain ⟨place, hplace⟩ := (part.holds h).exists_place?_settled hkey hc
  have hnow := h.place?_run (distinct_of_append hreset hids) op
    (.group (Traced.kind α) (number (part.announced (history m front)) key))
  rw [part.place? (op.base _) rfl, hbase, hplace, Option.map_some] at hnow
  obtain ⟨more, hmore⟩ := exists_history_eq m front hreset
  rw [hmore, part.append, number_append hkey, run_append, run_cons]
  rw [history_append, historyAfter] at hids
  exact ⟨_, (h.step op).place?_run_of_some hrest hids hnow⟩

theorem group_placed (hids : (history m ops).Distinct) {n : Nat}
    (hs : (run ops (new m)).place? (.group (Traced.kind α) n) = some s) : part.GroupPlaced m ops n s := by
  obtain ⟨before, op, after, place, rfl, hreset, hnone, hplace, rfl⟩ := exists_origin m hids hs
  obtain ⟨hop, hafter⟩ := List.ne_and_not_mem_of_not_mem_cons hreset
  have hnow := distinct_remember hafter hids
  have hnone' := hnone
  rw [part.place? _ rfl] at hnone' hplace
  obtain ⟨b, pre, a, post, -, -, -, href, -⟩ | ⟨hreads, key, hc, href, rfl⟩ :=
    part.seed_of_place?_base (holds_run m before) (Ne.symm hop) hnow hnone' hplace
  · cases href
  · obtain rfl := (NodeRef.group.inj href).2
    refine ⟨before, op, after, key, rfl, hreset, hreads, hc, rfl, ?_, Position.setAll_seed _ _ _⟩
    rintro front read rest rfl hrest hfirst hcrowded
    -- an earlier read of the crowded group would have brought the node
    obtain ⟨s, hs⟩ := part.exists_place?_of_read hfirst hrest (distinct_of_append hreset hids) hcrowded
    cases hnone.symm.trans hs

/-- Where the nodes of one kind stand after a run. -/
structure Placed (m : Option MetaModel) (ops : List Op) : Prop where
  /-- A thing has an own node once it is announced. -/
  exists_own : ∀ id ∈ ids (part.announced (history m ops)),
    ∃ p, (run ops (new m)).place? (.entity ⟨Traced.kind α, id⟩) = some p
  own : ∀ id p, (run ops (new m)).place? (.entity ⟨Traced.kind α, id⟩) = some p → part.OwnPlaced m ops id p
  /-- A group has a node once it is read as a crowded one. -/
  exists_group : ∀ front read rest, ops = front ++ read :: rest → .reset ∉ rest → read.reads (Traced.kind α) →
    ∀ key, Crowded part.limit (part.announced (history m front)) key → ∃ p, (run ops (new m)).place?
      (.group (Traced.kind α) (number (part.announced (history m ops)) key)) = some p
  group : ∀ n p, (run ops (new m)).place? (.group (Traced.kind α) n) = some p → part.GroupPlaced m ops n p

theorem placed (hids : (history m ops).Distinct) : part.Placed m ops where
  exists_own id hid := by
    rw [← Option.isSome_iff_exists, part.place? _ rfl, (part.holds (holds_run m ops)).isSome_place?_own_iff]
    exact hid
  own _ _ hs := part.own_placed hids hs
  exists_group front read rest hops hrest hreads key hc := by
    subst hops
    exact part.exists_place?_of_read hreads hrest hids hc
  group _ _ hs := part.group_placed hids hs

end Part

/-! ### What is seen of moves -/

/-- An operation assigns coordinates to a node only if it is a move that finds the node. -/
theorem Op.assignments_cases (v : View) (op : Op) (ref : NodeRef) :
    (op.assignments v).to ref = [] ∨ ∃ dataId x y w log, op = .move dataId x y ∧
      v.find dataId = .ok (w, some ref, log) ∧ (op.assignments v).to ref = coordinates x y := by
  cases op with
  | move dataId x y =>
    rw [Op.assignments]
    split
    · next w found log hfind =>
      rw [Assignments.to_map]
      split
      · next href => exact .inr ⟨dataId, x, y, w, log, rfl, by rw [hfind, href], rfl⟩
      · exact .inl rfl
    · exact .inl rfl
  | _ => exact .inl rfl

theorem place?_of_summary {n : NodeSummary} (hn : v.summary ref = .ok n) : v.place? ref = some ⟨n.x, n.y⟩ := by
  obtain ⟨node, hnode, hn⟩ := summary_eq_ok_iff.1 hn
  have hposition : node.position = ⟨n.x, n.y⟩ := by
    cases node <;> obtain ⟨a, -, rfl⟩ := Option.map_eq_some_iff.1 hn <;> rfl
  rw [place?, hnode, Option.map_some, hposition]

theorem Holds.knows_of_place? (h : v.Holds past) {e : EntityRef} (hs : v.place? (.entity e) = some s) :
    past.Knows e := by
  obtain ⟨kind, id⟩ := e
  cases kind with
  | activity =>
    rw [Part.activities.place? v rfl] at hs
    exact h.activities.isSome_place?_own_iff.1 (Option.isSome_of_eq_some hs)
  | passiveEntity =>
    rw [Part.passives.place? v rfl] at hs
    exact h.passives.isSome_place?_own_iff.1 (Option.isSome_of_eq_some hs)
  | dynamicScope => cases kind_of_place? hs <;> contradiction

/-- A data id tells a listed node from all others, listed or not. -/
theorem Holds.eq_of_dataId (h : v.Holds past) (hids : past.DistinctIds) {r : NodeRef} (hr : r ∈ past.nodes)
    (hs : v.place? ref = some s) (heq : r.dataId = ref.dataId) : r = ref := by
  have hkind : ref.kind ≠ .dynamicScope := by
    intro hkind
    cases kind_of_place? hs <;> simp_all
  rcases (NodeRef.dataId_eq_iff (History.kind_of_mem_nodes hr) hkind).1 heq with hsame | hnames
  · exact hsame
  · obtain ⟨id, k, k', hne, rfl, rfl⟩ := hnames.entities
    exact absurd (hids.kind_eq (History.knows_of_own_mem_nodes hr) (h.knows_of_place? hs) rfl) hne

/-- A snapshot shows listed nodes, as they are once the crowded groups are promoted. -/
theorem Holds.snapshot_summaries (h : v.Holds past) :
    ∃ w shot log, v.snapshot = .ok (w, shot, log) ∧
      ∀ n ∈ shot.nodes, ∃ r ∈ past.nodes, v.settled.summary r = .ok n := by
  obtain ⟨as, has⟩ := exists_mapM_eq_ok fun ref href => h.summary_settled (List.mem_append_left _ href)
  obtain ⟨bs, hbs⟩ := exists_mapM_eq_ok fun ref href => h.summary_settled (List.mem_append_right _ href)
  obtain ⟨log, hlog⟩ := h.snapshot_eq has hbs
  refine ⟨_, _, log, hlog, fun n hn => ?_⟩
  rcases List.mem_append.1 hn with hn | hn
  · obtain ⟨r, hr, hsummary⟩ := exists_of_mem_mapM has hn
    exact ⟨r, List.mem_append_left _ hr, hsummary⟩
  · obtain ⟨r, hr, hsummary⟩ := exists_of_mem_mapM hbs hn
    exact ⟨r, List.mem_append_right _ hr, hsummary⟩

/-- A snapshot shows each node where it stands. -/
theorem Holds.snapshot_places (h : v.Holds past) (hids : past.DistinctIds) (hs : v.place? ref = some s) :
    ∃ w shot log, v.snapshot = .ok (w, shot, log) ∧
      ∀ n ∈ shot.nodes, n.dataId = ref.dataId → s = ⟨n.x, n.y⟩ := by
  obtain ⟨w, shot, log, hshot, hnodes⟩ := h.snapshot_summaries
  refine ⟨w, shot, log, hshot, fun n hn hdataId => ?_⟩
  obtain ⟨r, hr, hsummary⟩ := hnodes n hn
  obtain rfl := h.eq_of_dataId hids hr hs ((h.settled.dataId_of_summary hsummary).symm.trans hdataId)
  have hlinks : Op.links ≠ .reset := by simp
  have hsettled : v.settled.place? r = some s := h.place?_base hlinks hids.distinct hs
  exact Option.some.inj (hsettled.symm.trans (place?_of_summary hsummary))

/-- A node that a move finds is there, and stands where it stood but for the coordinates of the move. -/
theorem Holds.place?_move (h : v.Holds past) (hids : past.Distinct) {dataId : String} {w : View}
    {log : List Log.Record} (hfind : v.find dataId = .ok (w, some ref, log)) (x y : Option Json) :
    ref.dataId = dataId ∧
      ∃ s : Position, ((Op.move dataId x y).run v).view.place? ref = some (s.setAll (coordinates x y)) := by
  obtain ⟨log', hlog⟩ := h.find dataId
  have hfound : past.nodes.find? (·.dataId = dataId) = some ref := by
    rw [hlog] at hfind
    exact (Prod.mk.inj (Prod.mk.inj (Except.ok.inj hfind)).2).1
  obtain ⟨n, hn⟩ := h.summary_settled (List.mem_of_find?_eq_some hfound)
  have hassigned : (Op.assignments v (.move dataId x y)).to ref = coordinates x y := by
    simp only [Op.assignments, hfind, Assignments.to_map, if_pos]
  refine ⟨by simpa using List.find?_some hfound, ⟨n.x, n.y⟩, ?_⟩
  rw [h.place?_run hids, hassigned]
  exact congrArg _ (place?_of_summary hn)

/-! ### Where nodes stand -/

/-- As long as no id is announced twice, nodes are placed when they come, by their seeds, and nothing but an
assignment moves them: a move that finds the node. Every later snapshot that shows a node that was moved
shows the last of the values that were assigned to it on each axis, cut off at the limits. -/
theorem only_assignments_move (m : Option MetaModel) (ops : List Op) (hids : (history m ops).DistinctIds) :
    Part.activities.Placed m ops ∧ Part.passives.Placed m ops ∧
    (∀ before op after, ops = before ++ op :: after → .reset ∉ op :: after →
      ∀ ref p, (run before (new m)).place? ref = some p →
        (run (before ++ [op]) (new m)).place? ref = some p ∨
        ∃ dataId x y w log, op = .move dataId x y ∧
          (run before (new m)).find dataId = .ok (w, some ref, log) ∧
          (run (before ++ [op]) (new m)).place? ref = some (p.setAll (coordinates x y))) ∧
    ∀ before dataId x y after, ops = before ++ .move dataId x y :: after → .reset ∉ after →
      ∀ w ref log, (run before (new m)).find dataId = .ok (w, some ref, log) →
        let later := assignmentsIn after (run (before ++ [.move dataId x y]) (new m))
        ∃ u shot log', (run ops (new m)).snapshot = .ok (u, shot, log') ∧
          ∀ n ∈ shot.nodes, n.dataId = dataId → ∀ axis c,
            lastOn axis (coordinates x y ++ later.to ref) = some c →
              (Position.mk n.x n.y).coordinate axis = c.clamp := by
  refine ⟨Part.activities.placed hids.distinct, Part.passives.placed hids.distinct, ?_, ?_⟩
  · rintro before op after rfl hreset ref p hp
    obtain ⟨hop, hafter⟩ := List.ne_and_not_mem_of_not_mem_cons hreset
    have hnow := (holds_run m before).place?_step (Ne.symm hop) (distinct_remember hafter hids.distinct) hp
    rw [run_snoc, hnow]
    obtain hnone | ⟨dataId, x, y, w, log, hmove, hfind, hassigned⟩ :=
      Op.assignments_cases (run before (new m)) op ref
    · exact .inl (by rw [hnone]; rfl)
    · exact .inr ⟨dataId, x, y, w, log, hmove, hfind, by rw [hassigned]⟩
  · rintro before dataId x y after rfl hafter w ref log hfind later
    have h := holds_run m before
    have hreset : .reset ∉ .move dataId x y :: after := List.not_mem_cons_of_ne_of_not_mem (by simp) hafter
    obtain ⟨rfl, s, hs⟩ := h.place?_move (distinct_of_append hreset hids.distinct) hfind x y
    have hlater := (h.step (.move ref.dataId x y)).place?_run_of_some hafter
      (by rw [← historyAfter, ← history_append]; exact hids.distinct) hs
    rw [← run_cons, ← run_append, ← Position.setAll_append, ← run_snoc] at hlater
    obtain ⟨u, shot, log', hshot, hshown⟩ := (holds_run m _).snapshot_places hids hlater
    refine ⟨u, shot, log', hshot, fun n hn hdataId axis c hc => ?_⟩
    rw [← hshown n hn hdataId, Position.coordinate_setAll, hc]
    rfl

/-- Five workers come in two batches with a move in between. Their node comes with the links and is moved far
down, and then a sixth worker comes. -/
def movedRun : List Op :=
  [.ingest ⟨[⟨1, "main", 0, none, true⟩, ⟨2, "worker", 0, some 1, true⟩, ⟨3, "worker", 0, some 1, true⟩],
      [⟨8, 0, ⟨"a", 1, 2, 3⟩, 1⟩], [], []⟩,
    .move "e1" (some (.int 7)) none,
    .ingest ⟨[⟨4, "worker", 0, some 1, true⟩, ⟨5, "worker", 0, some 1, true⟩, ⟨6, "worker", 0, some 1, true⟩],
      [], [], []⟩,
    .links, .move "ag1" none (some (.int 10000000)),
    .ingest ⟨[⟨7, "worker", 0, some 1, true⟩], [], [], []⟩]

theorem only_assignments_move_movedRun :
    let m : MetaModel := ⟨Table.empty, Table.empty⟩
    (history m movedRun).DistinctIds ∧
    Part.activities.OwnPlaced m movedRun 1 ⟨.whole 7, .whole 0⟩ ∧
    Part.activities.OwnPlaced m movedRun 6 ⟨.whole 600, .whole 200⟩ ∧
    Part.passives.OwnPlaced m movedRun 8 ⟨.whole 200, .whole 0⟩ ∧
    Part.activities.GroupPlaced m movedRun 1 ⟨.whole 600, .whole 5000⟩ ∧
    ∃ w shot log, (run movedRun (new m)).snapshot = .ok (w, shot, log) ∧ "ag1" ∈ shot.nodes.map NodeSummary.dataId ∧
      ∀ n ∈ shot.nodes, n.dataId = "ag1" → n.y = .whole 5000 := by
  intro m
  have hids : (history m movedRun).DistinctIds := by decide +kernel
  obtain ⟨hactivities, hpassives, -, hsnapshot⟩ := only_assignments_move m movedRun hids
  refine ⟨hids, hactivities.own 1 _ (by decide +kernel), hactivities.own 6 _ (by decide +kernel),
    hpassives.own 8 _ (by decide +kernel), hactivities.group 1 _ (by decide +kernel), ?_⟩
  obtain ⟨log, hfind⟩ := (holds_run m (movedRun.take 4)).find "ag1"
  have hfound : (history m (movedRun.take 4)).nodes.find? (·.dataId = "ag1") = some (.group .activity 1) := by
    decide +kernel
  rw [hfound] at hfind
  obtain ⟨w, shot, log', hshot, hshown⟩ := hsnapshot (movedRun.take 4) "ag1" none (some (.int 10000000))
    (movedRun.drop 5) rfl (by simp [movedRun]) _ _ _ hfind
  have hnodes : (run movedRun (new m)).snapshot.toOption.map (fun r => r.2.1.nodes.map NodeSummary.dataId) =
      some ["e1", "ag1", "e8"] := by decide +kernel
  rw [hshot] at hnodes
  have hshows : shot.nodes.map NodeSummary.dataId = ["e1", "ag1", "e8"] := Option.some.inj hnodes
  refine ⟨w, shot, log', hshot, by simp [hshows], fun n hn hdataId => ?_⟩
  exact hshown n hn hdataId .y (.whole 10000000) (by decide +kernel)

end View

end TraceGraph
