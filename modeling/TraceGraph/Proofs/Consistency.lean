import TraceGraph.Proofs.DataId
import TraceGraph.Proofs.MessageLinks
import TraceGraph.Proofs.Partition
import TraceGraph.Proofs.Session

/-! A snapshot is consistent in itself if no id was announced twice, not even for things of different
kinds: data ids tell its nodes apart, its links run between nodes that it shows, once in each direction,
and the members of a group are seen through the group alone. The listings decide by the size of a group
and the links by whether it has a node; they agree since reading the links promotes every crowded group. -/

namespace TraceGraph

open Announcements Sequence Traced

/-- All nodes of a snapshot. -/
def Snapshot.nodes (shot : Snapshot) : List NodeSummary := shot.activityNodes ++ shot.entityNodes

/-- The nodes and links of a snapshot fit together. -/
structure Snapshot.Consistent (shot : Snapshot) : Prop where
  nodes : (shot.nodes.map NodeSummary.dataId).Nodup
  sources : ∀ l ∈ shot.links, (shot.nodes.map NodeSummary.dataId).count l.source = 1
  targets : ∀ l ∈ shot.links, (shot.nodes.map NodeSummary.dataId).count l.target = 1
  links : (shot.links.map fun l => (l.source, l.target, l.creation)).Nodup
  counts : ∀ l ∈ shot.links, 1 ≤ l.messageCount
  maxLink_upper : ∀ l ∈ shot.links, l.creation = false → l.messageCount ≤ shot.maxLink
  maxLink_attained : (∃ l ∈ shot.links, l.creation = false ∧ l.messageCount = shot.maxLink) ∨
    shot.maxLink = 0 ∧ ∀ l ∈ shot.links, l.creation = true

/-- No link of a snapshot ends at a member of a group that has a node. -/
def Population.Hides {α : Type} [Traced α] (p : Population α) (shot : Snapshot) : Prop :=
  ∀ key g, p.groups.get? key = some g → g.isPromoted = true → ∀ a ∈ g.members, ∀ l ∈ shot.links,
    l.source ≠ Identifier.entity (Traced.id a) ∧ l.target ≠ Identifier.entity (Traced.id a)

/-! ### Distinct ids -/

/-- A member of a crowded group is listed under no own node, of whatever kind. -/
theorem Announcements.own_not_mem_listings {α β : Type} [Traced α] [Traced β] {as : List α} {bs : List β}
    (hids : (as.map Traced.id ++ bs.map Traced.id).Nodup) {limit limit' : Int} {a : α} (ha : a ∈ as)
    (hc : Crowded limit as (Traced.key a)) (kind : Kind) :
    NodeRef.entity ⟨kind, Traced.id a⟩ ∉ listing limit as ∧
      NodeRef.entity ⟨kind, Traced.id a⟩ ∉ listing limit' bs := by
  obtain ⟨hids, -, hdisjoint⟩ := List.nodup_append.1 hids
  constructor
  · exact own_not_mem_listing hids ha hc kind
  · intro h
    obtain ⟨b, hb, -⟩ := latest?_of_own_mem_listing h
    exact hdisjoint _ (List.mem_map_of_mem ha) _ (List.mem_map_of_mem (latest?_mem hb))
      (id_of_latest? hb).symm

namespace History

variable {past : History}

/-- No id was announced twice, for things of whatever kind. -/
def DistinctIds (past : History) : Prop :=
  (past.activities.map Activity.id ++ past.passives.map PassiveEntity.id).Nodup

instance : Decidable past.DistinctIds := inferInstanceAs (Decidable (List.Nodup _))

theorem knows_of_own_mem_nodes {e : EntityRef} (h : NodeRef.entity e ∈ past.nodes) : past.Knows e := by
  obtain ⟨kind, id⟩ := e
  rw [nodes, List.mem_append] at h
  rcases h with h | h
  · obtain rfl : kind = .activity := kind_of_mem_listing h
    obtain ⟨a, ha, -⟩ := latest?_of_own_mem_listing h
    exact mem_ids.2 ⟨a, latest?_mem ha, id_of_latest? ha⟩
  · obtain rfl : kind = .passiveEntity := kind_of_mem_listing h
    obtain ⟨a, ha, -⟩ := latest?_of_own_mem_listing h
    exact mem_ids.2 ⟨a, latest?_mem ha, id_of_latest? ha⟩

namespace DistinctIds

theorem kind_eq (h : past.DistinctIds) {e f : EntityRef} (he : past.Knows e) (hf : past.Knows f)
    (hid : e.id = f.id) : e.kind = f.kind := by
  have hdisjoint : ∀ id, past.Knows ⟨.activity, id⟩ → ¬ past.Knows ⟨.passiveEntity, id⟩ := by
    intro id hactivity hpassive
    obtain ⟨a, ha, haid⟩ := mem_ids.1 hactivity
    obtain ⟨b, hb, hbid⟩ := mem_ids.1 hpassive
    exact (List.nodup_append.1 h).2.2 _ (List.mem_map_of_mem ha) _ (List.mem_map_of_mem hb)
      (haid.trans hbid.symm)
  obtain ⟨k, i⟩ := e
  obtain ⟨k', j⟩ := f
  obtain rfl : i = j := hid
  cases k with
  | activity =>
    cases k' with
    | activity => rfl
    | passiveEntity => exact absurd hf (hdisjoint i he)
    | dynamicScope => exact hf.elim
  | passiveEntity =>
    cases k' with
    | activity => exact absurd he (hdisjoint i hf)
    | passiveEntity => rfl
    | dynamicScope => exact hf.elim
  | dynamicScope => exact he.elim

theorem eq_of_dataId (h : past.DistinctIds) {r s : NodeRef} (hr : r ∈ past.nodes) (hs : s ∈ past.nodes)
    (hid : r.dataId = s.dataId) : r = s := by
  rcases (dataId_eq_iff hr hs).1 hid with heq | hnames
  · exact heq
  · obtain ⟨id, k, k', hne, rfl, rfl⟩ := hnames.entities
    exact absurd (h.kind_eq (knows_of_own_mem_nodes hr) (knows_of_own_mem_nodes hs) rfl) hne

theorem nodup_dataIds (h : past.DistinctIds) : (past.nodes.map NodeRef.dataId).Nodup :=
  nodup_nodes.map_on fun _ hr _ hs => h.eq_of_dataId hr hs

theorem count_dataId (h : past.DistinctIds) {ref : NodeRef} (href : ref ∈ past.nodes) :
    (past.nodes.map NodeRef.dataId).count ref.dataId = 1 :=
  List.count_eq_one_of_mem h.nodup_dataIds (List.mem_map_of_mem href)

theorem own_activity_not_mem_nodes (h : past.DistinctIds) {a : Activity} (ha : a ∈ past.activities)
    (hc : Crowded activityThreshold past.activities a.name) (kind : Kind) :
    NodeRef.entity ⟨kind, a.id⟩ ∉ past.nodes := by
  rw [nodes, List.mem_append, not_or]
  exact own_not_mem_listings h ha hc kind

theorem own_passive_not_mem_nodes (h : past.DistinctIds) {a : PassiveEntity} (ha : a ∈ past.passives)
    (hc : Crowded passiveThreshold past.passives a.origin.locationId) (kind : Kind) :
    NodeRef.entity ⟨kind, a.id⟩ ∉ past.nodes := by
  rw [nodes, List.mem_append, not_or, and_comm]
  exact own_not_mem_listings (List.nodup_append_comm.1 h) ha hc kind

end DistinctIds

/-! ### Links -/

theorem mem_links {l : Link} : l ∈ past.links ↔
    (∃ i ∈ past.messageLinks.increments, ⟨i.source, i.target, i.amount, false⟩ = l) ∨
      ∃ i ∈ past.creationLinks.increments, ⟨i.source, i.target, i.amount, true⟩ = l := by
  rw [links, List.mem_append, linksOf_eq, linksOf_eq, List.mem_map, List.mem_map]

theorem messageCount_pos {l : Link} (hl : l ∈ past.links) : 0 < l.messageCount := by
  rcases mem_links.1 hl with ⟨i, hi, rfl⟩ | ⟨i, hi, rfl⟩
  · exact past.messageLinks_positive.amount_pos hi
  · exact past.creationLinks_positive.amount_pos hi

/-- There is at most one link of each sort from one node to another. -/
theorem nodup_links : (past.links.map fun l => (l.source, l.target, l.creation)).Nodup := by
  have hsort (creation : Bool) (t : Tally NodeRef) :
      ((View.linksOf creation t).map fun l => (l.source, l.target, l.creation)).Nodup := by
    have hpairs : ((t.increments.map fun i => (i.source, i.target)).map
        fun e => (e.1, e.2, creation)).Nodup :=
      t.nodup_increments.map fun e e' he => by simpa [Prod.ext_iff] using he
    rw [List.map_map] at hpairs
    rw [linksOf_eq, List.map_map]
    exact hpairs
  rw [links, List.map_append, List.nodup_append]
  refine ⟨hsort false _, hsort true _, ?_⟩
  intro e he e' he' heq
  rw [linksOf_eq, List.map_map, List.mem_map] at he he'
  obtain ⟨i, -, rfl⟩ := he
  obtain ⟨i', -, rfl⟩ := he'
  simp at heq

end History

/-! ### Snapshots -/

namespace Snapshot

/-- A snapshot shows the nodes and links of a history. -/
structure Shows (shot : Snapshot) (past : History) : Prop where
  nodes : shot.nodes.map NodeSummary.dataId = past.nodes.map NodeRef.dataId
  links : shot.links = past.links.map Link.summary
  maxLink : shot.maxLink = past.messageLinks.max

variable {shot : Snapshot} {past : History}

theorem Shows.forall_links (h : shot.Shows past) {Q : LinkSummary → Prop}
    (hQ : ∀ l ∈ past.links, Q l.summary) : ∀ l ∈ shot.links, Q l := by
  rw [h.links]
  exact List.forall_mem_map.2 hQ

theorem Shows.nodup_links (h : shot.Shows past) (hclosed : past.Closed) (hids : past.DistinctIds) :
    (shot.links.map fun l => (l.source, l.target, l.creation)).Nodup := by
  have hkeys : (past.links.map fun l => (l.source, l.target, l.creation)).Nodup := History.nodup_links
  rw [h.links, List.map_map]
  apply List.Nodup.map_on _ (List.Nodup.of_map _ hkeys)
  intro l hl k hk heq
  obtain ⟨hs, ht, hc⟩ : l.source.dataId = k.source.dataId ∧ l.target.dataId = k.target.dataId ∧
      l.creation = k.creation := by simpa [Link.summary] using heq
  obtain ⟨hls, hlt⟩ := hclosed.ends_mem_nodes hl
  obtain ⟨hks, hkt⟩ := hclosed.ends_mem_nodes hk
  apply List.inj_on_of_nodup_map hkeys hl hk
  rw [hids.eq_of_dataId hls hks hs, hids.eq_of_dataId hlt hkt ht, hc]

theorem Shows.consistent (h : shot.Shows past) (hclosed : past.Closed) (hids : past.DistinctIds) :
    shot.Consistent where
  nodes := by
    rw [h.nodes]
    exact hids.nodup_dataIds
  sources := h.forall_links fun l hl => by
    rw [h.nodes]
    exact hids.count_dataId (hclosed.ends_mem_nodes hl).1
  targets := h.forall_links fun l hl => by
    rw [h.nodes]
    exact hids.count_dataId (hclosed.ends_mem_nodes hl).2
  links := h.nodup_links hclosed hids
  counts := h.forall_links fun _ hl => History.messageCount_pos hl
  maxLink_upper := h.forall_links fun l hl hc => by
    rw [h.maxLink]
    rcases History.mem_links.1 hl with ⟨i, hi, rfl⟩ | ⟨i, hi, rfl⟩
    · exact Tally.amount_le_max hi
    · cases hc
  maxLink_attained := by
    rw [h.maxLink]
    rcases past.messageLinks.exists_amount_eq_max with ⟨i, hi, hamount⟩ | ⟨hnone, hzero⟩
    · refine .inl ⟨Link.summary ⟨i.source, i.target, i.amount, false⟩, ?_, rfl, hamount⟩
      rw [h.links]
      exact List.mem_map_of_mem (History.mem_links.2 (.inl ⟨i, hi, rfl⟩))
    · refine .inr ⟨hzero, h.forall_links fun l hl => ?_⟩
      rcases History.mem_links.1 hl with ⟨i, hi, rfl⟩ | ⟨i, hi, rfl⟩
      · rw [hnone] at hi
        cases hi
      · rfl

/-- No link ends at a thing that has no own node in the listings. -/
theorem Shows.ends_ne (h : shot.Shows past) (hclosed : past.Closed) {id : Int}
    (hid : ∀ kind, NodeRef.entity ⟨kind, id⟩ ∉ past.nodes) :
    ∀ l ∈ shot.links, l.source ≠ Identifier.entity id ∧ l.target ≠ Identifier.entity id := by
  have hne : ∀ ref ∈ past.nodes, ref.dataId ≠ Identifier.entity id := by
    intro ref href heq
    have hown : ref.dataId = (NodeRef.entity ⟨.activity, id⟩).dataId := heq
    have hkind : (NodeRef.entity ⟨.activity, id⟩).kind ≠ .dynamicScope := by simp [NodeRef.kind]
    rcases (NodeRef.dataId_eq_iff (History.kind_of_mem_nodes href) hkind).1 hown with rfl | hnames
    · exact hid _ href
    · obtain ⟨j, k, k', -, rfl, he⟩ := hnames.entities
      obtain rfl : id = j := congrArg EntityRef.id (NodeRef.entity.inj he)
      exact hid k href
  refine h.forall_links fun l hl => ?_
  obtain ⟨hs, ht⟩ := hclosed.ends_mem_nodes hl
  exact ⟨hne _ hs, hne _ ht⟩

end Snapshot

theorem View.Holds.snapshot_shows {v : View} {past : History} (h : v.Holds past) :
    ∃ shot log, v.snapshot = .ok ({ v.settled with maxLink := past.messageLinks.max }, shot, log) ∧
      shot.Shows past := by
  obtain ⟨as, has⟩ := exists_mapM_eq_ok fun ref href => h.summary_settled (List.mem_append_left _ href)
  obtain ⟨bs, hbs⟩ := exists_mapM_eq_ok fun ref href => h.summary_settled (List.mem_append_right _ href)
  obtain ⟨log, hlog⟩ := h.snapshot_eq has hbs
  have hids : ∀ ref s, v.settled.summary ref = .ok s → s.dataId = ref.dataId :=
    fun ref s hs => h.settled.dataId_of_summary hs
  refine ⟨_, log, hlog, ?_, rfl, rfl⟩
  rw [Snapshot.nodes, List.map_append, map_of_mapM_eq_ok hids has, map_of_mapM_eq_ok hids hbs,
    History.nodes, List.map_append]

namespace Session

/-- As long as no id is announced twice, every snapshot is consistent, and no link of it ends at a member
of a group that has a node in the view then. A snapshot is refused only if there is no view. -/
theorem snapshots_consistent (path : Option String) (ops : List Op)
    (hids : (history path ops).DistinctIds) :
    ((run ops (new path)).view = none ∧
        (run ops (new path)).snapshot.answer = .error .notInstalled) ∨
      ∃ shot w, (run ops (new path)).snapshot.answer = .ok shot ∧
        (run ops (new path)).snapshot.session.view = some w ∧
        shot.Consistent ∧ w.activities.Hides shot ∧ w.passives.Hides shot := by
  have hs := holds_run path ops
  generalize run ops (new path) = s at hs ⊢
  generalize history path ops = past at hs hids
  cases hv : s.view with
  | none => exact .inl ⟨rfl, by rw [Session.snapshot, withView, hv]⟩
  | some v =>
    rw [Holds, hv] at hs
    obtain ⟨shot, log, hshot, hshows⟩ := hs.snapshot_shows
    let w : View := { v.settled with maxLink := past.messageLinks.max }
    have hsnapshot : s.snapshot = ⟨{ s with view := some w }, .ok shot, log⟩ := by
      rw [Session.snapshot, withView, hv]
      simp only [hshot]
      rfl
    refine .inr ⟨shot, w, by rw [hsnapshot], by rw [hsnapshot], hshows.consistent hs.closed hids, ?_, ?_⟩
    · intro key g hg hp a ha
      obtain ⟨b, hb, hid, hc⟩ := hs.activities.settled.announced_of_promoted hg hp ha
      rw [← hid]
      exact hshows.ends_ne hs.closed (hids.own_activity_not_mem_nodes hb hc)
    · intro key g hg hp a ha
      obtain ⟨b, hb, hid, hc⟩ := hs.passives.settled.announced_of_promoted hg hp ha
      rw [← hid]
      exact hshows.ends_ne hs.closed (hids.own_passive_not_mem_nodes hb hc)

/-- After a reset, five activities of one name come in two batches with a snapshot in between. -/
def crowdedRun : List Op :=
  [.install ⟨Table.ofList [(0, .passiveEntity)], Table.empty⟩,
    .ingest ⟨[⟨1, "main", 0, none, true⟩], [], [], []⟩,
    .reset,
    .ingest ⟨[⟨1, "worker", 0, none, true⟩, ⟨2, "main", 0, some 1, true⟩, ⟨3, "worker", 0, some 1, true⟩],
      [⟨4, 0, ⟨"a", 1, 2, 3⟩, 1⟩, ⟨5, 0, ⟨"b", 1, 2, 3⟩, 3⟩], [⟨0, 1, 4⟩, ⟨0, 2, 5⟩], []⟩,
    .snapshot,
    .ingest ⟨[⟨6, "worker", 0, some 2, true⟩, ⟨7, "worker", 0, some 2, true⟩, ⟨8, "worker", 0, some 2, true⟩],
      [], [⟨0, 3, 4⟩, ⟨0, 8, 4⟩], []⟩]

theorem snapshots_consistent_crowdedRun :
    (history none crowdedRun).DistinctIds ∧
    ∃ shot w, (run crowdedRun (new none)).snapshot.answer = .ok shot ∧
      (run crowdedRun (new none)).snapshot.session.view = some w ∧
      shot.Consistent ∧ w.activities.Hides shot ∧ w.passives.Hides shot ∧
      shot.links.filter (! ·.creation) = [⟨"ag0", "e4", 3, false⟩, ⟨"e2", "e5", 1, false⟩] := by
  have hids : (history none crowdedRun).DistinctIds := by decide +kernel
  have hview : (run crowdedRun (new none)).view.isSome = true := by decide +kernel
  have hlinks : ((run crowdedRun (new none)).snapshot.answer.toOption.map fun shot =>
      shot.links.filter (! ·.creation)) =
        some [⟨"ag0", "e4", 3, false⟩, ⟨"e2", "e5", 1, false⟩] := by decide +kernel
  refine ⟨hids, ?_⟩
  rcases snapshots_consistent none crowdedRun hids with ⟨hnone, -⟩ | ⟨shot, w, hshot, hw, hall⟩
  · rw [hnone] at hview
    cases hview
  · rw [hshot] at hlinks
    exact ⟨shot, w, hshot, hw, hall.1, hall.2.1, hall.2.2, Option.some.inj hlinks⟩

end Session

end TraceGraph
