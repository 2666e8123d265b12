import TraceGraph.Proofs.Population

/-! What a population shows. A listing yields the nodes that stand for the ids, each once, in the order
in which the ids came; and once every crowded group is promoted, the node found for an id is the one that
stands for it. Both are read off the announcements, so earlier listings, promotions and moves have no
part in them. -/

namespace TraceGraph

open Announcements Traced

variable {α : Type} [Traced α] {limit : Int} {as : List α}

theorem Group.Holds.promote {g : Group α} {key : String} (h : g.Holds limit as key)
    (hc : limit < g.size) (n : Int) : (g.promote n).Holds limit as key where
  number := by rw [Group.promote_id, h.number]
  members := by rw [Group.promote_members, h.members]
  promoted _ := by rwa [Group.promote_size]

namespace Population

/-- The population with every crowded group promoted. -/
def settled (p : Population α) : Population α := { p with groups := p.groups.settled }

/-- The population after a listing: the groups that it met are promoted. -/
def listed (p : Population α) : Population α := { p with groups := p.groups.promotedAt p.metKeys }

variable {p : Population α}

/-! ### Groups and entries -/

theorem Holds.get?_of_mem (h : p.Holds limit as) {key : String} (hkey : key ∈ Announcements.keys as) :
    ∃ g, p.groups.get? key = some g ∧ g.Holds limit as key := by
  rw [← h.keys] at hkey
  obtain ⟨g, hg⟩ := Table.get?_eq_some_of_mem_keys hkey
  exact ⟨g, hg, h.groups key g hg⟩

/-- A group has the number of its key and holds every announcement of it. -/
theorem Holds.group_number (h : p.Holds limit as) {key : String} {g : Group α}
    (hg : p.groups.get? key = some g) :
    g.id = number as key ∧ g.size = (sharing as key).length :=
  ⟨(h.groups key g hg).number, (h.groups key g hg).size_eq⟩

theorem Holds.isCrowded_iff (h : p.Holds limit as) {key : String} {g : Group α}
    (hg : p.groups.get? key = some g) : p.groups.isCrowded g = true ↔ Crowded limit as key := by
  rw [GroupTable.isCrowded, decide_eq_true_iff, h.threshold, (h.groups key g hg).size_eq, Crowded]

/-- An entry of the table is the last announcement of its id. -/
theorem Holds.entry (h : p.Holds limit as) {e : Int × Placed α} (he : e ∈ p.table.entries) :
    ∃ a, latest? as e.1 = some a ∧ traits a = traits e.2.item := by
  have hl := h.latest e.1
  rw [Table.get?_of_mem he, Option.map_some] at hl
  exact Option.map_eq_some_iff.1 hl.symm

theorem Holds.id_eq (h : p.Holds limit as) {e : Int × Placed α} (he : e ∈ p.table.entries) :
    Traced.id e.2.item = e.1 := by
  obtain ⟨a, ha, ht⟩ := h.entry he
  rw [← id_of_latest? ha]
  exact (congrArg Traits.id ht).symm

theorem Holds.key_mem (h : p.Holds limit as) {e : Int × Placed α} (he : e ∈ p.table.entries) :
    Traced.key e.2.item ∈ Announcements.keys as := by
  obtain ⟨a, ha, ht⟩ := h.entry he
  exact mem_keys.2 ⟨a, latest?_mem ha, congrArg Traits.key ht⟩

theorem nodeOf_congr {a b : α} (h : traits a = traits b) : nodeOf limit as a = nodeOf limit as b := by
  have hid : Traced.id a = Traced.id b := congrArg Traits.id h
  have hkey : Traced.key a = Traced.key b := congrArg Traits.key h
  rw [nodeOf, nodeOf, hid, hkey]

theorem Holds.standIn? (h : p.Holds limit as) {e : Int × Placed α} (he : e ∈ p.table.entries) :
    standIn? limit as e.1 = some (nodeOf limit as e.2.item) := by
  obtain ⟨a, ha, ht⟩ := h.entry he
  rw [Announcements.standIn?, ha, Option.map_some, nodeOf_congr ht]

/-! ### Listings -/

theorem Holds.shownBy (h : p.Holds limit as) {e : Int × Placed α} (he : e ∈ p.table.entries) :
    p.shownBy e.2.item = .ok (nodeOf limit as e.2.item) := by
  obtain ⟨g, hg, hh⟩ := h.get?_of_mem (h.key_mem he)
  have hc := h.isCrowded_iff hg
  simp only [Population.shownBy, GroupTable.get_of_get? hg, bind, Except.bind, pure, Except.pure, nodeOf,
    groupRef, ownRef, hh.number]
  congr 1
  by_cases hcrowd : Crowded limit as (Traced.key e.2.item)
  · rw [if_pos (hc.2 hcrowd), if_pos hcrowd]
  · rw [if_neg fun hx => hcrowd (hc.1 hx), if_neg hcrowd]

/-- A listing shows the nodes that stand for the ids. -/
theorem Holds.shown (h : p.Holds limit as) : p.shown = .ok (listing limit as) := by
  have hall : ∀ e ∈ p.table.values, p.shownBy e.item = .ok (nodeOf limit as e.item) := by
    intro e he
    obtain ⟨x, hx, rfl⟩ := List.mem_map.1 he
    exact h.shownBy hx
  have hrefs : p.table.values.map (fun e => nodeOf limit as e.item) =
      (Announcements.ids as).filterMap (Announcements.standIn? limit as) := by
    rw [← h.ids, Table.keys, Table.values, List.map_map, List.filterMap_map, ← List.filterMap_eq_map]
    apply List.filterMap_congr
    intro x hx
    exact (h.standIn? hx).symm
  simp only [Population.shown, Sequence.mapM_eq_ok hall, bind, Except.bind, pure, Except.pure]
  rw [hrefs, listing]

theorem mem_metKeys {key : String} (hkey : key ∈ p.metKeys) :
    ∃ g, p.groups.get? key = some g ∧ p.groups.isCrowded g = true := by
  rw [metKeys, List.mem_eraseDups, List.mem_filter] at hkey
  exact (Option.any_eq_true _ _).1 hkey.2

theorem Holds.list (h : p.Holds limit as) :
    ∃ log, p.list = .ok (p.listed, listing limit as, log) := by
  obtain ⟨log, hlog⟩ := GroupTable.promoteKeys_eq (t := p.groups) (by rw [h.kind]; exact h.drawn)
    p.metKeys (by
      intro key hkey
      obtain ⟨g, hg, -⟩ := mem_metKeys hkey
      exact Table.mem_keys_of_get? hg)
  refine ⟨log, ?_⟩
  simp only [Population.list, h.shown, hlog, bind, Except.bind, pure, Except.pure, listed]

theorem Holds.listed (h : p.Holds limit as) : p.listed.Holds limit as := by
  apply h.mapGroups
  intro key g hg hh
  split
  · next hmem =>
    obtain ⟨g', hg', hc⟩ := mem_metKeys hmem
    obtain rfl := Option.some.inj (hg.symm.trans hg')
    apply hh.promote
    rw [← h.threshold]
    exact of_decide_eq_true hc
  · exact hh

/-- A group with a node is crowded and its members are announcements of its key. -/
theorem Holds.announced_of_promoted (h : p.Holds limit as) {key : String} {g : Group α}
    (hg : p.groups.get? key = some g) (hp : g.isPromoted = true) {a : α} (ha : a ∈ g.members) :
    ∃ b ∈ as, Traced.id b = Traced.id a ∧ Crowded limit as (Traced.key b) := by
  have hh := h.groups key g hg
  have ht : traits a ∈ (sharing as key).map traits := by
    rw [← hh.members]
    exact List.mem_map_of_mem ha
  obtain ⟨b, hb, hba⟩ := List.mem_map.1 ht
  obtain ⟨hbas, hkey⟩ := List.mem_filter.1 hb
  rw [decide_eq_true_iff] at hkey
  refine ⟨b, hbas, congrArg Traits.id hba, ?_⟩
  rw [hkey]
  exact hh.crowded hp

/-! ### Every crowded group promoted -/

theorem Holds.promoteAll (h : p.Holds limit as) : ∃ log, p.promoteAll = .ok (p.settled, log) := by
  obtain ⟨log, hlog⟩ := GroupTable.promoteAll_eq (t := p.groups) (by rw [h.kind]; exact h.drawn)
  refine ⟨log, ?_⟩
  simp only [Population.promoteAll, hlog, bind, Except.bind, pure, Except.pure, settled]

theorem Holds.settled (h : p.Holds limit as) : p.settled.Holds limit as := by
  apply h.mapGroups
  intro key g hg hh
  split
  · next hc =>
    apply hh.promote
    rw [← h.threshold]
    exact of_decide_eq_true hc
  · exact hh

/-- With every crowded group promoted, having a node and being crowded are the same. -/
theorem Holds.isPromoted_settled (h : p.Holds limit as) {key : String} {g : Group α}
    (hg : p.settled.groups.get? key = some g) : g.isPromoted = true ↔ Crowded limit as key := by
  constructor
  · exact (h.settled.groups key g hg).crowded
  · intro hc
    rw [Population.settled, GroupTable.settled, GroupTable.get?_mapGroups] at hg
    obtain ⟨x, hx, rfl⟩ := Option.map_eq_some_iff.1 hg
    rw [if_pos ((h.isCrowded_iff hx).2 hc)]
    exact Group.isPromoted_promote x _

/-- Once every crowded group is promoted, an id is found at the node that stands for it. -/
theorem Holds.visible_settled (h : p.Holds limit as) {id : Int} (hid : id ∈ Announcements.ids as) :
    ∃ ref, Announcements.standIn? limit as id = some ref ∧ p.settled.visible id = .ok ref := by
  have hs := h.settled
  rw [← hs.ids] at hid
  obtain ⟨x, hx⟩ := Table.get?_eq_some_of_mem_keys hid
  have he : (id, x) ∈ p.settled.table.entries := (Table.get?_eq_some_iff _ _ _).1 hx
  obtain ⟨g, hg, hh⟩ := hs.get?_of_mem (hs.key_mem he)
  refine ⟨nodeOf limit as x.item, hs.standIn? he, ?_⟩
  have hp := h.isPromoted_settled hg
  simp only [Population.visible, hx, GroupTable.get_of_get? hg, bind, Except.bind, pure, Except.pure,
    nodeOf, groupRef, ownRef, hh.number]
  congr 1
  by_cases hcrowd : Crowded limit as (Traced.key x.item)
  · rw [if_pos (hp.2 hcrowd), if_pos hcrowd]
  · rw [if_neg fun hx => hcrowd (hp.1 hx), if_neg hcrowd]

end Population

end TraceGraph
