import TraceGraph.Proofs.Nodes
import TraceGraph.Proofs.Run
import Mathlib.Algebra.GroupWithZero.Nat

/-! Listings partition what was announced. As long as no id comes twice, each announcement is shown by
one node of the listing: that of its group if its key is crowded, and that node holds exactly the
announcements of the key, or else a node of its own. The nodes stand in the order in which the first of
their announcements came. -/

namespace TraceGraph

open Announcements Sequence Traced

variable {α : Type} [Traced α] {limit : Int} {as : List α}

/-- Nodes that show each announcement once, crowded keys by one node of a group and the other
announcements by nodes of their own. -/
structure Partition (limit : Int) (as : List α) (nodes : List (Node α)) : Prop where
  /-- Taken together, the nodes show every id once. -/
  once : (nodes.flatMap fun n => n.members.map Traced.id).Perm (as.map Traced.id)
  inhabited : ∀ n ∈ nodes, n.members ≠ []
  crowded : ∀ key, Crowded limit as key →
    ∃ n, nodes.filter (fun n => n.members.any (Traced.key · = key)) = [n] ∧ n.isGroup = true ∧
      n.members.map traits = (sharing as key).map traits
  alone : ∀ a ∈ as, ¬ Crowded limit as (Traced.key a) →
    ∃ n, nodes.filter (fun n => n.members.any (Traced.id · = Traced.id a)) = [n] ∧
      n.isGroup = false ∧ n.members.map traits = [traits a]
  /-- The nodes stand in the order of their first members. -/
  order : (nodes.filterMap fun n => n.members.head?.map Traced.id).Sublist (as.map Traced.id)

theorem Partition.sum_size {nodes : List (Node α)} (h : Partition limit as nodes) :
    (nodes.map Node.size).sum = as.length := by
  have hsize : nodes.map (fun n => (n.members.map Traced.id).length) = nodes.map Node.size :=
    List.map_congr_left fun n _ => List.length_map _
  have hlength := h.once.length_eq
  rwa [List.length_flatMap, List.length_map, hsize] at hlength

namespace Announcements

/-! ### Distinct ids -/

/-- The announcements that a node stands for. -/
def part (limit : Int) (as : List α) (ref : NodeRef) : List α := as.filter (nodeOf limit as · = ref)

section Distinct
variable (hids : (as.map Traced.id).Nodup)
include hids

theorem listing_eq_eraseDups : listing limit as = (as.map (nodeOf limit as)).eraseDups := by
  rw [listing, ids, eraseDups_eq_self hids, List.filterMap_map, ← List.filterMap_eq_map]
  congr 1
  apply List.filterMap_congr
  intro a ha
  simp only [Function.comp, standIn?, latest?_of_mem hids ha, Option.map_some]

theorem mem_listing_iff {ref : NodeRef} : ref ∈ listing limit as ↔ ∃ a ∈ as, nodeOf limit as a = ref := by
  rw [listing_eq_eraseDups hids, List.mem_eraseDups, List.mem_map]

end Distinct

theorem nodeOf_of_crowded {a : α} (h : Crowded limit as (Traced.key a)) :
    nodeOf limit as a = .group (Traced.kind α) (number as (Traced.key a)) := if_pos h

theorem nodeOf_of_not_crowded {a : α} (h : ¬ Crowded limit as (Traced.key a)) :
    nodeOf limit as a = .entity ⟨Traced.kind α, Traced.id a⟩ := if_neg h

theorem nodeOf_eq_iff_of_crowded {a b : α} (ha : a ∈ as) (h : Crowded limit as (Traced.key a)) :
    nodeOf limit as b = nodeOf limit as a ↔ Traced.key b = Traced.key a := by
  rw [nodeOf_of_crowded h]
  constructor
  · intro he
    by_cases hb : Crowded limit as (Traced.key b)
    · rw [nodeOf_of_crowded hb] at he
      obtain ⟨-, hnumber⟩ := NodeRef.group.inj he
      exact (number_inj (mem_keys.2 ⟨a, ha, rfl⟩) hnumber.symm).symm
    · rw [nodeOf_of_not_crowded hb] at he
      cases he
  · intro hkey
    rw [nodeOf_of_crowded (by rwa [hkey]), hkey]

theorem nodeOf_eq_iff_of_not_crowded {a b : α} (h : ¬ Crowded limit as (Traced.key a))
    (hids : Traced.id b = Traced.id a → b = a) :
    nodeOf limit as b = nodeOf limit as a ↔ b = a := by
  constructor
  · intro he
    rw [nodeOf_of_not_crowded h] at he
    by_cases hb : Crowded limit as (Traced.key b)
    · rw [nodeOf_of_crowded hb] at he
      cases he
    · rw [nodeOf_of_not_crowded hb] at he
      exact hids (congrArg EntityRef.id (NodeRef.entity.inj he))
  · rintro rfl
    rfl

theorem part_of_crowded {a : α} (ha : a ∈ as) (h : Crowded limit as (Traced.key a)) :
    part limit as (nodeOf limit as a) = sharing as (Traced.key a) := by
  apply List.filter_congr
  intro b _
  rw [decide_eq_decide]
  exact nodeOf_eq_iff_of_crowded ha h

theorem part_of_not_crowded (hids : (as.map Traced.id).Nodup) {a : α} (ha : a ∈ as)
    (h : ¬ Crowded limit as (Traced.key a)) : part limit as (nodeOf limit as a) = [a] := by
  have hself := filter_filterMap_eq_singleton (f := some) (nodeOf limit as · = nodeOf limit as a)
    (hids.of_map _) ha rfl (by
      rintro b hb c ⟨⟩
      rw [decide_eq_true_iff]
      exact nodeOf_eq_iff_of_not_crowded h fun he => List.inj_on_of_nodup_map hids hb ha he)
  rwa [List.filterMap_some] at hself

end Announcements

/-! ### The nodes of a listing -/

/-- For each announcement there is a node that holds all that it stands for. -/
def Shown (node? : NodeRef → Option (Node α)) (limit : Int) (as : List α) : Prop :=
  ∀ a ∈ as, ∃ n, node? (nodeOf limit as a) = some n ∧
    (n.isGroup = true ↔ Crowded limit as (Traced.key a)) ∧
    n.members.map traits = (part limit as (nodeOf limit as a)).map traits

namespace Shown

variable {node? : NodeRef → Option (Node α)} (h : Shown node? limit as)
  (hids : (as.map Traced.id).Nodup)
include h hids

theorem of_mem_listing {ref : NodeRef} (href : ref ∈ listing limit as) :
    ∃ n, node? ref = some n ∧ n.members.map traits = (part limit as ref).map traits := by
  obtain ⟨a, ha, rfl⟩ := (mem_listing_iff hids).1 href
  obtain ⟨n, hn, -, hmembers⟩ := h a ha
  exact ⟨n, hn, hmembers⟩

/-- The references of a listing lead to the nodes, in whatever they are looked up. -/
theorem map_listing {β : Type} {f : NodeRef → Option β} {wrap : Node α → β}
    (hf : ∀ ref ∈ listing limit as, ∀ n, node? ref = some n → f ref = some (wrap n)) :
    (listing limit as).map f = ((listing limit as).filterMap node?).map (some ∘ wrap) := by
  rw [map_filterMap_eq]
  intro ref href
  obtain ⟨n, hn, -⟩ := h.of_mem_listing hids href
  rw [hn, Option.map_some, Function.comp, hf ref href n hn]

theorem once :
    (((listing limit as).filterMap node?).flatMap fun n => n.members.map Traced.id).Perm
      (as.map Traced.id) := by
  have hparts : ((listing limit as).filterMap node?).map (fun n => n.members.map Traced.id) =
      (listing limit as).map fun ref => (part limit as ref).map Traced.id := by
    apply map_filterMap_eq
    intro ref href
    obtain ⟨n, hn, hmembers⟩ := h.of_mem_listing hids href
    have hmap := congrArg (List.map Traits.id) hmembers
    rw [List.map_map, List.map_map] at hmap
    rw [hn, Option.map_some]
    exact congrArg some hmap
  rw [List.flatMap_def, hparts, ← List.flatMap_def, ← List.map_flatMap]
  have hmem : ∀ a ∈ as, nodeOf limit as a ∈ listing limit as :=
    fun a ha => (mem_listing_iff hids).2 ⟨a, ha, rfl⟩
  exact (fibers_perm (nodeOf limit as) (nodup_eraseDups _) as hmem).map _

theorem inhabited {n : Node α} (hn : n ∈ (listing limit as).filterMap node?) : n.members ≠ [] := by
  obtain ⟨ref, href, hnode⟩ := List.mem_filterMap.1 hn
  obtain ⟨n', hn', hmembers⟩ := h.of_mem_listing hids href
  obtain rfl := Option.some.inj (hnode.symm.trans hn')
  obtain ⟨a, ha, rfl⟩ := (mem_listing_iff hids).1 href
  intro hnil
  rw [hnil, List.map_nil, eq_comm, List.map_eq_nil_iff, part, List.filter_eq_nil_iff] at hmembers
  simpa using hmembers a ha

/-- A trait that only one node's announcements have singles its node out. -/
theorem filter_any {a : α} (ha : a ∈ as) {n : Node α} (hn : node? (nodeOf limit as a) = some n)
    (test : Traits → Bool) (htest : test (traits a) = true)
    (honly : ∀ b ∈ as, test (traits b) = true → nodeOf limit as b = nodeOf limit as a) :
    ((listing limit as).filterMap node?).filter (fun n => n.members.any fun b => test (traits b)) =
      [n] := by
  refine filter_filterMap_eq_singleton _ (nodup_eraseDups _)
    ((mem_listing_iff hids).2 ⟨a, ha, rfl⟩) hn ?_
  intro ref href n' hn'
  obtain ⟨n'', hn'', hmembers⟩ := h.of_mem_listing hids href
  obtain rfl := Option.some.inj (hn'.symm.trans hn'')
  have hany := congrArg (List.any · test) hmembers
  rw [List.any_map, List.any_map] at hany
  refine (Bool.eq_iff_iff.1 hany).trans ?_
  simp only [List.any_eq_true, part, List.mem_filter, decide_eq_true_eq, Function.comp]
  constructor
  · rintro ⟨b, ⟨hb, rfl⟩, hbtest⟩
    exact honly b hb hbtest
  · rintro rfl
    exact ⟨a, ⟨ha, rfl⟩, htest⟩

theorem crowded (hlimit : 0 ≤ limit) {key : String} (hc : Crowded limit as key) :
    ∃ n, ((listing limit as).filterMap node?).filter
        (fun n => n.members.any (Traced.key · = key)) = [n] ∧ n.isGroup = true ∧
      n.members.map traits = (sharing as key).map traits := by
  have hpos : 0 < (sharing as key).length := by
    have hlt : limit < (sharing as key).length := hc
    omega
  obtain ⟨a, hmem⟩ := List.exists_mem_of_length_pos hpos
  obtain ⟨ha, hkey⟩ := List.mem_filter.1 hmem
  rw [decide_eq_true_iff] at hkey
  subst hkey
  obtain ⟨n, hn, hgroup, hmembers⟩ := h a ha
  rw [part_of_crowded ha hc] at hmembers
  refine ⟨n, ?_, hgroup.2 hc, hmembers⟩
  refine h.filter_any hids ha hn (·.key = Traced.key a) (decide_eq_true rfl) ?_
  intro b _ hb
  exact (nodeOf_eq_iff_of_crowded ha hc).2 (of_decide_eq_true hb)

theorem alone {a : α} (ha : a ∈ as) (hc : ¬ Crowded limit as (Traced.key a)) :
    ∃ n, ((listing limit as).filterMap node?).filter
        (fun n => n.members.any (Traced.id · = Traced.id a)) = [n] ∧ n.isGroup = false ∧
      n.members.map traits = [traits a] := by
  obtain ⟨n, hn, hgroup, hmembers⟩ := h a ha
  rw [part_of_not_crowded hids ha hc] at hmembers
  refine ⟨n, ?_, Bool.eq_false_iff.2 fun hg => hc (hgroup.1 hg), hmembers⟩
  refine h.filter_any hids ha hn (·.id = Traced.id a) (decide_eq_true rfl) ?_
  intro b hb htest
  rw [List.inj_on_of_nodup_map hids hb ha (of_decide_eq_true htest)]

theorem order :
    (((listing limit as).filterMap node?).filterMap fun n => n.members.head?.map Traced.id).Sublist
      (as.map Traced.id) := by
  have hheads : ((listing limit as).filterMap node?).filterMap
      (fun n => n.members.head?.map Traced.id) =
      ((listing limit as).filterMap fun ref => as.find? (nodeOf limit as · = ref)).map Traced.id := by
    rw [List.filterMap_filterMap, List.map_filterMap]
    apply List.filterMap_congr
    intro ref href
    obtain ⟨n, hn, hmembers⟩ := h.of_mem_listing hids href
    have hhead := congrArg (fun ts => ts.head?.map Traits.id) hmembers
    rw [List.head?_map, List.head?_map, Option.map_map, Option.map_map, part, List.head?_filter] at hhead
    rw [hn, Option.bind_some]
    exact hhead
  rw [hheads, listing_eq_eraseDups hids]
  exact (firsts_sublist (nodeOf limit as) as).map _

theorem partition (hlimit : 0 ≤ limit) : Partition limit as ((listing limit as).filterMap node?) where
  once := h.once hids
  inhabited _ hn := h.inhabited hids hn
  crowded _ hc := h.crowded hids hlimit hc
  alone _ ha hc := h.alone hids ha hc
  order := h.order hids

end Shown

/-- The nodes of a population hold what they stand for. -/
theorem Population.Holds.shows {p : Population α} (h : p.Holds limit as)
    (hids : (as.map Traced.id).Nodup) : Shown p.settled.node? limit as := by
  intro a ha
  by_cases hc : Crowded limit as (Traced.key a)
  · obtain ⟨members, position, hnode, hmembers⟩ := h.node?_group (mem_keys.2 ⟨a, ha, rfl⟩) hc
    refine ⟨⟨.group (number as (Traced.key a)) members, position⟩, ?_, ?_, ?_⟩
    · rw [nodeOf_of_crowded hc]
      exact hnode
    · exact ⟨fun _ => hc, fun _ => rfl⟩
    · rw [part_of_crowded ha hc]
      exact hmembers
  · obtain ⟨e, he, hid, ht⟩ := h.entry_of_latest? (latest?_of_mem hids ha)
    have hid' : Traced.id e.2.item = Traced.id a := congrArg Traits.id ht
    refine ⟨⟨.single e.2.item, e.2.position⟩, ?_, ?_, ?_⟩
    · rw [nodeOf_of_not_crowded hc, ← hid']
      exact p.settled.node?_own he (hid'.trans hid.symm)
    · exact ⟨nofun, fun hg => absurd hg hc⟩
    · rw [part_of_not_crowded hids ha hc]
      exact congrArg ([·]) ht

/-! ### Listings of a view -/

namespace View

variable {v : View} {past : History}

/-- As long as ids do not repeat, the listings of both kinds partition what the history announces, with
groups beyond four activities and three passive entities. -/
theorem listings_partition (m : Option MetaModel) (ops : List Op)
    (hactivities : ((history m ops).activities.map Activity.id).Nodup)
    (hpassives : ((history m ops).passives.map PassiveEntity.id).Nodup) :
    (∃ v refs log nodes, (run ops (new m)).listActivities = .ok (v, refs, log) ∧
      refs.map v.node? = nodes.map (some ∘ AnyNode.activity) ∧
      Partition 4 (history m ops).activities nodes ∧
      (nodes.map Node.size).sum = (history m ops).activities.length) ∧
    (∃ v refs log nodes, (run ops (new m)).listPassives = .ok (v, refs, log) ∧
      refs.map v.node? = nodes.map (some ∘ AnyNode.passive) ∧
      Partition 3 (history m ops).passives nodes ∧
      (nodes.map Node.size).sum = (history m ops).passives.length) := by
  have h := holds_run m ops
  generalize run ops (new m) = v at h ⊢
  generalize history m ops = past at h hactivities hpassives ⊢
  constructor
  · have hshown := h.activities.shows hactivities
    have hpartition := hshown.partition hactivities (by decide)
    obtain ⟨log, hlog⟩ := h.listActivities
    refine ⟨_, _, log, _, hlog, hshown.map_listing hactivities ?_, hpartition, hpartition.sum_size⟩
    intro ref href n hn
    exact node?_activity ((h.activities.node?_listed href).trans hn)
  · have hshown := h.passives.shows hpassives
    have hpartition := hshown.partition hpassives (by decide)
    obtain ⟨log, hlog⟩ := h.listPassives
    refine ⟨_, _, log, _, hlog, hshown.map_listing hpassives ?_, hpartition, hpartition.sum_size⟩
    intro ref href n hn
    exact node?_passive ((h.passives.node?_listed href).trans hn)

/-- Five activities of one name and four passive entities of one place come in two batches, with others
in between and a refused batch. -/
def interleavedRun : List Op :=
  let place : SourceRange := ⟨"a", 1, 2, 3⟩
  let elsewhere : SourceRange := ⟨"b", 1, 2, 3⟩
  [.ingest ⟨[⟨1, "worker", 0, none, true⟩, ⟨2, "main", 0, some 1, true⟩, ⟨3, "worker", 0, some 1, true⟩],
      [⟨1, 0, place, 1⟩, ⟨2, 0, elsewhere, 3⟩, ⟨3, 0, place, 2⟩], [], []⟩,
    .listActivities,
    .ingest ⟨[⟨4, "worker", 0, some 9, true⟩], [], [], []⟩,
    .ingest ⟨[⟨4, "worker", 0, some 5, true⟩, ⟨5, "worker", 0, some 1, true⟩, ⟨6, "worker", 0, none, true⟩],
      [⟨4, 0, place, 5⟩, ⟨5, 0, place, 6⟩], [], []⟩]

theorem listings_partition_interleavedRun :
    let m : MetaModel := ⟨Table.empty, Table.empty⟩
    let past := history m interleavedRun
    past.activities.map Activity.id = [1, 2, 3, 4, 5, 6] ∧
    past.passives.map PassiveEntity.id = [1, 2, 3, 4, 5] ∧
    (∃ v refs log nodes, (run interleavedRun (new m)).listActivities = .ok (v, refs, log) ∧
      refs.map v.node? = nodes.map (some ∘ AnyNode.activity) ∧ Partition 4 past.activities nodes ∧
      (nodes.map Node.size).sum = past.activities.length) ∧
    (∃ v refs log nodes, (run interleavedRun (new m)).listPassives = .ok (v, refs, log) ∧
      refs.map v.node? = nodes.map (some ∘ AnyNode.passive) ∧ Partition 3 past.passives nodes ∧
      (nodes.map Node.size).sum = past.passives.length) := by
  intro m past
  have hactivities : past.activities.map Activity.id = [1, 2, 3, 4, 5, 6] := by decide +kernel
  have hpassives : past.passives.map PassiveEntity.id = [1, 2, 3, 4, 5] := by decide +kernel
  refine ⟨hactivities, hpassives, listings_partition m interleavedRun ?_ ?_⟩
  · rw [hactivities]
    decide
  · rw [hpassives]
    decide

end View

end TraceGraph
