import TraceGraph.Proofs.Nodes
import TraceGraph.Proofs.Reading
import TraceGraph.Session

/-! What a snapshot shows of a view that holds its history. The nodes of the listings and the ends of the
links are all found, and what is said of them can be told from the announcements and the table of own
nodes, but for the place of a group's node, which depends on when the group was promoted. -/

namespace TraceGraph

open Announcements Sequence Traced

/-! ### Summaries but for places of groups -/

/-- The summary with a fixed place for the node of a group. -/
def NodeSummary.withoutGroupPlace (s : NodeSummary) : NodeSummary :=
  if s.isGroup then { s with x := .whole 0, y := .whole 0 } else s

def Snapshot.withoutGroupPlaces (s : Snapshot) : Snapshot :=
  { s with
    activityNodes := s.activityNodes.map NodeSummary.withoutGroupPlace
    entityNodes := s.entityNodes.map NodeSummary.withoutGroupPlace }

variable {α : Type} [Traced α] {limit : Int} {as : List α}

/-- Nodes that differ at most in running flags and in the places of groups. -/
structure Node.Alike (n n' : Node α) : Prop where
  dataId : n.dataId = n'.dataId
  isGroup : n.isGroup = n'.isGroup
  members : n.members.map traits = n'.members.map traits
  position : n.isGroup = false → n.position = n'.position

theorem Node.Alike.summary? {n n' : Node α} (h : n.Alike n') (hmembers : n.members ≠ []) :
    ∃ s s', n.summary? = some s ∧ n'.summary? = some s' ∧
      s.withoutGroupPlace = s'.withoutGroupPlace := by
  have hsize : n.size = n'.size := by
    have hlength := congrArg List.length h.members
    rwa [List.length_map, List.length_map] at hlength
  have hquery : n.query = n'.query := by
    have hids := congrArg (List.map Traits.id) h.members
    rw [List.map_map, List.map_map] at hids
    exact congrArg Identifier.query hids
  obtain ⟨a, hrest, hn⟩ := List.exists_cons_of_ne_nil hmembers
  obtain ⟨a', rest', hn', ht, -⟩ := List.map_eq_cons_iff.1 (h.members.symm.trans (congrArg _ hn))
  have hkey : Traced.key a' = Traced.key a := congrArg Traits.key ht
  rw [Node.summary?, Node.summary?, representative?, representative?, hn, hn']
  refine ⟨_, _, rfl, rfl, ?_⟩
  simp only [NodeSummary.withoutGroupPlace, Node.viewId, h.dataId, ← h.isGroup, hsize, hquery, hkey]
  split
  · rfl
  · next hg => rw [h.position (Bool.eq_false_iff.2 hg)]

/-- Populations with the same announcements and the same own nodes show alike nodes. -/
theorem Population.Holds.node?_alike {p q : Population α} (hp : p.Holds limit as)
    (hq : q.Holds limit as) (htable : p.table = q.table) {ref : NodeRef}
    (href : ref ∈ listing limit as) :
    ∃ n n', p.settled.node? ref = some n ∧ q.settled.node? ref = some n' ∧ n.Alike n' ∧
      n.members ≠ [] := by
  obtain ⟨id, a, ha, rfl⟩ := mem_listing.1 href
  by_cases hc : Crowded limit as (Traced.key a)
  · have hkey : Traced.key a ∈ Announcements.keys as := mem_keys.2 ⟨a, latest?_mem ha, rfl⟩
    obtain ⟨members, place, hn, hmembers⟩ := hp.node?_group hkey hc
    obtain ⟨members', place', hn', hmembers'⟩ := hq.node?_group hkey hc
    rw [nodeOf, if_pos hc]
    refine ⟨_, _, hn, hn', ⟨rfl, rfl, hmembers.trans hmembers'.symm, fun hsingle => ?_⟩, ?_⟩
    · exact absurd hsingle.symm Bool.false_ne_true
    · rintro rfl
      rw [List.map_nil, eq_comm, List.map_eq_nil_iff, sharing, List.filter_eq_nil_iff] at hmembers
      simpa using hmembers a (latest?_mem ha)
  · obtain ⟨e, he, -, ht⟩ := hp.entry_of_latest? ha
    have hkey : Traced.key e.2.item = Traced.key a := congrArg Traits.key ht
    rw [← nodeOf_congr ht, nodeOf, if_neg (by rwa [hkey])]
    have he' : e ∈ q.table.entries := by rwa [← htable]
    exact ⟨_, _, p.settled.node?_own he (hp.id_eq he), q.settled.node?_own he' (hq.id_eq he'),
      ⟨rfl, rfl, rfl, fun _ => rfl⟩, List.cons_ne_nil _ _⟩

/-! ### Ends of links -/

namespace History

variable {past : History}

theorem nodeOf_mem_nodes {e : EntityRef} (he : past.Knows e) : past.nodeOf e ∈ past.nodes := by
  have hstand := standIn?_of_knows he
  rw [nodes, List.mem_append, listing, listing, List.mem_eraseDups, List.mem_eraseDups,
    List.mem_filterMap, List.mem_filterMap]
  obtain ⟨kind, id⟩ := e
  cases kind with
  | activity => exact .inl ⟨id, he, hstand⟩
  | passiveEntity => exact .inr ⟨id, he, hstand⟩
  | dynamicScope => exact he.elim

theorem Closed.ends_mem_nodes (h : past.Closed) {l : Link} (hl : l ∈ past.links) :
    l.source ∈ past.nodes ∧ l.target ∈ past.nodes := by
  have hfold : ∀ is : List (Tally.Increment EntityRef),
      (∀ i ∈ is, past.Knows i.source ∧ past.Knows i.target) →
      ∀ i ∈ (Tally.run (is.map (Tally.Increment.map past.nodeOf)) Tally.empty).increments,
        i.source ∈ past.nodes ∧ i.target ∈ past.nodes := by
    intro is his
    refine Tally.forall_increments_run (Q := fun s d => s ∈ past.nodes ∧ d ∈ past.nodes) nofun ?_
    intro i hi
    obtain ⟨j, hj, rfl⟩ := List.mem_map.1 hi
    exact ⟨nodeOf_mem_nodes (his j hj).1, nodeOf_mem_nodes (his j hj).2⟩
  rw [links, List.mem_append, linksOf_eq, linksOf_eq, List.mem_map, List.mem_map] at hl
  rcases hl with ⟨i, hi, rfl⟩ | ⟨i, hi, rfl⟩
  · exact hfold _ (fun j hj => h.knows_of_mem_increments hj) i hi
  · refine hfold (Tally.ones past.creations) ?_ i hi
    intro j hj
    obtain ⟨e, he, rfl⟩ := List.mem_map.1 hj
    exact h.knows_of_mem_creations he

end History

/-! ### Snapshots -/

namespace View

variable {v w : View} {past : History}

theorem summary_of_node? {ref : NodeRef} {n : AnyNode} {s : NodeSummary} (hn : v.node? ref = some n)
    (hs : n.summary? = some s) : v.summary ref = .ok s := by
  rw [summary, hn, Option.bind_some, hs]

theorem summary_eq_ok_iff {ref : NodeRef} {s : NodeSummary} :
    v.summary ref = .ok s ↔ ∃ n, v.node? ref = some n ∧ n.summary? = some s := by
  constructor
  · intro h
    rw [summary] at h
    split at h
    · next s' hs =>
      obtain rfl := Except.ok.inj h
      exact Option.bind_eq_some_iff.1 hs
    · cases h
  · rintro ⟨n, hn, hs⟩
    exact summary_of_node? hn hs

theorem Holds.summary_alike (hv : v.Holds past) (hw : w.Holds past)
    (hactivities : v.activities.table = w.activities.table)
    (hpassives : v.passives.table = w.passives.table) {ref : NodeRef} (href : ref ∈ past.nodes) :
    ∃ s s', v.settled.summary ref = .ok s ∧ w.settled.summary ref = .ok s' ∧
      s.withoutGroupPlace = s'.withoutGroupPlace := by
  rw [History.nodes, List.mem_append] at href
  rcases href with href | href
  · obtain ⟨n, n', hn, hn', halike, hmembers⟩ :=
      hv.activities.node?_alike hw.activities hactivities href
    obtain ⟨s, s', hs, hs', heq⟩ := halike.summary? hmembers
    exact ⟨s, s', summary_of_node? (node?_activity hn) hs, summary_of_node? (node?_activity hn') hs', heq⟩
  · obtain ⟨n, n', hn, hn', halike, hmembers⟩ :=
      hv.passives.node?_alike hw.passives hpassives href
    obtain ⟨s, s', hs, hs', heq⟩ := halike.summary? hmembers
    exact ⟨s, s', summary_of_node? (node?_passive hn) hs, summary_of_node? (node?_passive hn') hs', heq⟩

/-- Every node of a listing, and so every end of a link, has a summary. -/
theorem Holds.summary_settled (h : v.Holds past) {ref : NodeRef} (href : ref ∈ past.nodes) :
    ∃ s, v.settled.summary ref = .ok s := by
  obtain ⟨s, -, hs, -⟩ := h.summary_alike h rfl rfl href
  exact ⟨s, hs⟩

/-- The listings promote all groups whose nodes they show. -/
theorem Holds.node?_listed (h : v.Holds past) {ref : NodeRef} (href : ref ∈ past.nodes) :
    v.listed.node? ref = v.settled.node? ref := by
  rw [History.nodes, List.mem_append] at href
  rw [node?_eq_or, node?_eq_or]
  rcases href with href | href
  · have hkind : ref.kind ≠ .passiveEntity := by
      rw [kind_of_mem_listing href]
      decide
    have hnone (p : Population PassiveEntity) : p.node? ref = none := Population.node?_of_other_kind hkind
    rw [hnone, hnone, View.listed, View.settled, h.activities.node?_listed href]
  · have hkind : ref.kind ≠ .activity := by
      rw [kind_of_mem_listing href]
      decide
    have hnone (p : Population Activity) : p.node? ref = none := Population.node?_of_other_kind hkind
    rw [hnone, hnone, View.listed, View.settled, h.passives.node?_listed href]

theorem settled_listed (v : View) : v.listed.settled = v.settled := by
  simp only [settled, listed, Population.settled_listed]

/-- A snapshot is taken of the view with every crowded group promoted. -/
theorem Holds.snapshot_eq (h : v.Holds past) {as bs : List NodeSummary}
    (has : (listing activityThreshold past.activities).mapM v.settled.summary = .ok as)
    (hbs : (listing passiveThreshold past.passives).mapM v.settled.summary = .ok bs) :
    ∃ log, v.snapshot = .ok ({ v.settled with maxLink := past.messageLinks.max },
      ⟨as, bs, past.links.map Link.summary, v.maxSends, past.messageLinks.max⟩, log) := by
  obtain ⟨log, hlog⟩ := h.listActivities
  obtain ⟨more, hmore⟩ := (h.mapPopulations h.activities.listed h.passives).listPassives
  obtain ⟨rest, hrest⟩ := h.listed.links
  rw [settled_listed] at hrest
  have hsummary : View.summary { v.settled with maxLink := past.messageLinks.max } =
      v.settled.summary := rfl
  refine ⟨log ++ more ++ rest, ?_⟩
  rw [View.listed] at hrest
  simp only [View.snapshot, hlog, hmore, hrest, bind, Except.bind, pure, Except.pure, hsummary, has, hbs]
  rfl

theorem Holds.snapshot (h : v.Holds past) :
    ∃ s log, v.snapshot = .ok ({ v.settled with maxLink := past.messageLinks.max }, s, log) := by
  obtain ⟨as, has⟩ := exists_mapM_eq_ok fun ref href => h.summary_settled (List.mem_append_left _ href)
  obtain ⟨bs, hbs⟩ := exists_mapM_eq_ok fun ref href => h.summary_settled (List.mem_append_right _ href)
  obtain ⟨log, hlog⟩ := h.snapshot_eq has hbs
  exact ⟨_, log, hlog⟩

end View

end TraceGraph
