import TraceGraph.Proofs.Visibility
import TraceGraph.View
import Mathlib.Data.List.Find

/-! The nodes that a listing and the links refer to. A group's node is found by the number of its key and
holds every announcement of the key, an own node holds the last announcement of its id. It makes no
difference whether the crowded groups were promoted by a listing, which meets the keys of the table, or
all at once. -/

namespace TraceGraph

open Announcements Traced

variable {α : Type} [Traced α] {limit : Int} {as : List α}

/-- The kind of what a node shows. -/
def NodeRef.kind : NodeRef → Kind
  | entity e => e.kind
  | group kind _ => kind

namespace Announcements

/-- A listing consists of the nodes that stand for last announcements. -/
theorem mem_listing {ref : NodeRef} :
    ref ∈ listing limit as ↔ ∃ id a, latest? as id = some a ∧ nodeOf limit as a = ref := by
  rw [listing, List.mem_eraseDups, List.mem_filterMap]
  constructor
  · rintro ⟨id, -, href⟩
    obtain ⟨a, ha, hnode⟩ := Option.map_eq_some_iff.1 href
    exact ⟨id, a, ha, hnode⟩
  · rintro ⟨id, a, ha, hnode⟩
    refine ⟨id, mem_ids.2 ⟨a, latest?_mem ha, id_of_latest? ha⟩, ?_⟩
    rw [standIn?, ha, Option.map_some, hnode]

variable {a : α}

theorem kind_nodeOf (limit : Int) (as : List α) (a : α) : (nodeOf limit as a).kind = Traced.kind α := by
  unfold nodeOf
  split <;> rfl

theorem kind_of_mem_listing {ref : NodeRef} (h : ref ∈ listing limit as) : ref.kind = Traced.kind α := by
  obtain ⟨-, a, -, rfl⟩ := mem_listing.1 h
  exact kind_nodeOf limit as a

/-- What is behind the node that stands for an announcement. -/
def behind (limit : Int) (as : List α) (a : α) : List Traits :=
  if Crowded limit as (Traced.key a) then (sharing as (Traced.key a)).map traits else [traits a]

theorem traits_mem_behind (limit : Int) (ha : a ∈ as) : traits a ∈ behind limit as a := by
  unfold behind
  split
  · exact List.mem_map_of_mem (List.mem_filter.2 ⟨ha, decide_eq_true rfl⟩)
  · exact List.mem_singleton_self _

theorem key_of_mem_behind {t : Traits} (ht : t ∈ behind limit as a) : t.key = Traced.key a := by
  unfold behind at ht
  split at ht
  · obtain ⟨b, hb, rfl⟩ := List.mem_map.1 ht
    exact of_decide_eq_true (List.mem_filter.1 hb).2
  · rw [List.mem_singleton.1 ht]
    rfl

end Announcements

/-! ### Promotion again -/

namespace GroupTable

variable {α : Type}

theorem isCrowded_promote (t : GroupTable α) (g : Group α) (n : Int) :
    t.isCrowded (g.promote n) = t.isCrowded g := by
  rw [isCrowded, isCrowded, Group.promote_size]

@[simp] theorem isCrowded_mapGroups (f : String → Group α → Group α) (t : GroupTable α) (g : Group α) :
    (t.mapGroups f).isCrowded g = t.isCrowded g := rfl

theorem settled_settled (t : GroupTable α) : t.settled.settled = t.settled := by
  unfold settled
  rw [mapGroups_mapGroups]
  apply mapGroups_congr
  intro key g _
  simp only [isCrowded_mapGroups, mapGroups_size]
  by_cases hc : t.isCrowded g = true
  · rw [if_pos hc, if_pos ((isCrowded_promote t g _).trans hc), Group.promote_promote]
  · rw [if_neg hc, if_neg hc]

/-- Promoting crowded groups first makes no difference to promoting all of them. -/
theorem settled_promotedAt {t : GroupTable α} {keys : List String}
    (h : ∀ key ∈ keys, ∃ g, t.get? key = some g ∧ t.isCrowded g = true) :
    (t.promotedAt keys).settled = t.settled := by
  unfold settled promotedAt
  rw [mapGroups_mapGroups]
  apply mapGroups_congr
  intro key g hg
  simp only [isCrowded_mapGroups, mapGroups_size]
  by_cases hkey : key ∈ keys
  · obtain ⟨g', hg', hc⟩ := h key hkey
    obtain rfl := Option.some.inj (hg.symm.trans hg')
    rw [if_pos hkey, if_pos hc, if_pos ((isCrowded_promote t g _).trans hc), Group.promote_promote]
  · rw [if_neg hkey]

end GroupTable

namespace Population

variable {p q : Population α}

omit [Traced α] in
theorem settled_settled (p : Population α) : p.settled.settled = p.settled := by
  unfold settled
  rw [GroupTable.settled_settled]

theorem settled_listed (p : Population α) : p.listed.settled = p.settled := by
  unfold settled listed
  rw [GroupTable.settled_promotedAt fun key hkey => mem_metKeys hkey]

/-! ### Groups by number -/

/-- The first group of a number is that of the first key of the number. -/
theorem Holds.find_entry (h : p.Holds limit as) (id : Nat) :
    (p.groups.groups.entries.find? (·.2.id = id)).map Prod.fst =
      (Announcements.keys as).find? (number as · = id) := by
  rw [← h.keys, Table.keys, List.find?_map]
  congr 1
  apply List.find?_congr
  intro e he
  have hnumber := (h.groups e.1 e.2 (Table.get?_of_mem he)).number
  simp only [Function.comp, hnumber]

theorem Holds.byId? (h : p.Holds limit as) {key : String} {g : Group α}
    (hg : p.groups.get? key = some g) : p.groups.byId? (number as key) = some g := by
  have hentry := h.find_entry (number as key)
  have hkey : (Announcements.keys as).find? (number as · = number as key) = some key := by
    have hmem := h.mem_keys_of_get? hg
    cases hf : (Announcements.keys as).find? (number as · = number as key) with
    | none =>
      rw [List.find?_eq_none] at hf
      simpa using hf key hmem
    | some k =>
      have hnumber : number as k = number as key := by simpa using List.find?_some hf
      rw [number_inj (List.mem_of_find?_eq_some hf) hnumber]
  rw [hkey] at hentry
  obtain ⟨e, he, rfl⟩ := Option.map_eq_some_iff.1 hentry
  have hmem : e ∈ p.groups.groups.entries := List.mem_of_find?_eq_some he
  obtain rfl := Option.some.inj (hg.symm.trans (Table.get?_of_mem hmem))
  rw [GroupTable.byId?, GroupTable.toList, Table.values, List.find?_map]
  exact congrArg (Option.map Prod.snd) he

/-! ### Nodes by reference -/

/-- The node of a reference of the population's kind. -/
def node? (p : Population α) : NodeRef → Option (Node α)
  | .entity e => if e.kind = Traced.kind α then p.ownNode? e.id else none
  | .group kind n => if kind = Traced.kind α then p.groupNode? n else none

theorem node?_of_other_kind {ref : NodeRef} (h : ref.kind ≠ Traced.kind α) : p.node? ref = none := by
  rcases ref with e | ⟨kind, n⟩ <;> exact if_neg h

theorem kind_of_node? {ref : NodeRef} {n : Node α} (h : p.node? ref = some n) :
    ref.kind = Traced.kind α := by
  by_contra hkind
  rw [node?_of_other_kind hkind] at h
  cases h

theorem node?_own (p : Population α) {e : Int × Placed α} (he : e ∈ p.table.entries)
    (hid : Traced.id e.2.item = e.1) :
    p.node? (.entity ⟨Traced.kind α, Traced.id e.2.item⟩) = some ⟨.single e.2.item, e.2.position⟩ := by
  rw [node?, if_pos rfl, ownNode?, hid, Table.get?_of_mem he, Option.map_some]

/-- The node of a crowded group holds the announcements of its key. -/
theorem Holds.node?_group (h : p.Holds limit as) {key : String} (hkey : key ∈ Announcements.keys as)
    (hc : Crowded limit as key) :
    ∃ members position, p.settled.node? (.group (Traced.kind α) (number as key)) =
        some ⟨.group (number as key) members, position⟩ ∧
      members.map traits = (sharing as key).map traits := by
  obtain ⟨g, hg, hh⟩ := h.settled.get?_of_mem hkey
  obtain ⟨place, hplace⟩ := Option.isSome_iff_exists.1 ((h.isPromoted_settled hg).2 hc)
  refine ⟨g.members, place, ?_, hh.members⟩
  rw [node?, if_pos rfl, groupNode?, h.settled.byId? hg, Option.bind_some, Group.node?, hplace,
    Option.map_some, hh.number]

theorem Holds.mem_metKeys_of_crowded (h : p.Holds limit as) {e : Int × Placed α}
    (he : e ∈ p.table.entries) (hc : Crowded limit as (Traced.key e.2.item)) :
    Traced.key e.2.item ∈ p.metKeys := by
  obtain ⟨g, hg, -⟩ := h.get?_of_mem (h.key_mem he)
  rw [metKeys, List.mem_eraseDups, List.mem_filter]
  refine ⟨List.mem_map_of_mem (f := fun e : Placed α => Traced.key e.item)
    (List.mem_map_of_mem (f := Prod.snd) he), ?_⟩
  rw [hg, Option.any_some]
  exact (h.isCrowded_iff hg).2 hc

/-- The entry of an id whose last announcement is known. -/
theorem Holds.entry_of_latest? (h : p.Holds limit as) {id : Int} {a : α} (ha : latest? as id = some a) :
    ∃ e ∈ p.table.entries, e.1 = id ∧ traits e.2.item = traits a := by
  have hid : id ∈ p.table.keys := by
    rw [h.ids]
    exact mem_ids.2 ⟨a, latest?_mem ha, id_of_latest? ha⟩
  obtain ⟨e, he, rfl⟩ := List.mem_map.1 hid
  obtain ⟨b, hb, ht⟩ := h.entry he
  obtain rfl := Option.some.inj (ha.symm.trans hb)
  exact ⟨e, he, rfl, ht.symm⟩

/-- A listing promotes all groups whose nodes it shows. -/
theorem Holds.node?_listed (h : p.Holds limit as) {ref : NodeRef} (href : ref ∈ listing limit as) :
    p.listed.node? ref = p.settled.node? ref := by
  obtain ⟨id, a, ha, rfl⟩ := mem_listing.1 href
  obtain ⟨e, he, -, ht⟩ := h.entry_of_latest? ha
  rw [← nodeOf_congr ht, nodeOf]
  by_cases hc : Crowded limit as (Traced.key e.2.item)
  · rw [if_pos hc, node?, node?, groupNode?, groupNode?]
    obtain ⟨g, hg, -⟩ := h.get?_of_mem (h.key_mem he)
    have hlisted : p.listed.groups.get? (Traced.key e.2.item) = some (g.promote p.groups.size) := by
      rw [Population.listed, GroupTable.promotedAt, GroupTable.get?_mapGroups, hg, Option.map_some,
        if_pos (h.mem_metKeys_of_crowded he hc)]
    have hsettled : p.settled.groups.get? (Traced.key e.2.item) = some (g.promote p.groups.size) := by
      rw [Population.settled, GroupTable.settled, GroupTable.get?_mapGroups, hg, Option.map_some,
        if_pos ((h.isCrowded_iff hg).2 hc)]
    rw [h.listed.byId? hlisted, h.settled.byId? hsettled]
  · rw [if_neg hc]
    rfl

/-- The node that stands for a last announcement has all that is behind it as members. -/
theorem Holds.node?_nodeOf (h : p.Holds limit as) {id : Int} {a : α} (ha : latest? as id = some a) :
    ∃ n, p.settled.node? (nodeOf limit as a) = some n ∧ n.dataId = (nodeOf limit as a).dataId ∧
      n.isGroup = decide (Crowded limit as (Traced.key a)) ∧ n.members.map traits = behind limit as a := by
  by_cases hc : Crowded limit as (Traced.key a)
  · obtain ⟨members, place, hn, hmembers⟩ := h.node?_group (mem_keys.2 ⟨a, latest?_mem ha, rfl⟩) hc
    rw [nodeOf, if_pos hc, behind, if_pos hc]
    exact ⟨_, hn, rfl, (decide_eq_true hc).symm, hmembers⟩
  · obtain ⟨e, he, -, ht⟩ := h.entry_of_latest? ha
    have hown := p.settled.node?_own he (h.id_eq he)
    have hid : Traced.id e.2.item = Traced.id a := congrArg Traits.id ht
    rw [hid] at hown
    rw [nodeOf, if_neg hc, behind, if_neg hc]
    exact ⟨_, hown, congrArg Identifier.entity hid, (decide_eq_false hc).symm, congrArg ([·]) ht⟩

end Population

/-! ### Nodes of a view -/

namespace View

variable {v : View} {ref : NodeRef}

/-- A node is looked up in the population of its kind. -/
theorem node?_eq_or (v : View) (ref : NodeRef) :
    v.node? ref = ((v.activities.node? ref).map AnyNode.activity).or
      ((v.passives.node? ref).map AnyNode.passive) := by
  rcases ref with ⟨kind, id⟩ | ⟨kind, n⟩ <;> cases kind <;>
    simp [View.node?, Population.node?, Traced.kind]

theorem node?_activities (h : v.passives.node? ref = none) :
    v.node? ref = (v.activities.node? ref).map AnyNode.activity := by
  rw [node?_eq_or, h, Option.map_none, Option.or_none]

theorem node?_passives (h : v.activities.node? ref = none) :
    v.node? ref = (v.passives.node? ref).map AnyNode.passive := by
  rw [node?_eq_or, h, Option.map_none, Option.none_or]

theorem node?_activity {n : Node Activity} (h : v.activities.node? ref = some n) :
    v.node? ref = some (.activity n) := by
  rw [node?_eq_or, h, Option.map_some, Option.some_or]

theorem node?_passive {n : Node PassiveEntity} (h : v.passives.node? ref = some n) :
    v.node? ref = some (.passive n) := by
  have hnone : v.activities.node? ref = none := Population.node?_of_other_kind (by
    rw [Population.kind_of_node? h]
    exact nofun)
  rw [node?_passives hnone, h, Option.map_some]

end View

end TraceGraph
