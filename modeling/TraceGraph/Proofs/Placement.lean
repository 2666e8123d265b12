import TraceGraph.Proofs.Coarsening
import TraceGraph.Proofs.Continuity

/-! Where nodes are placed. A node is placed by its seed when it comes: the own node of a thing when the
thing is announced, the node of a group when the group is promoted. What is announced or promoted later
leaves it there, and of the coordinates that are assigned to it the last one on each axis counts. -/

namespace TraceGraph

open Announcements Traced

/-! ### Coordinates -/

def Position.coordinate (p : Position) : Axis → Number
  | .x => p.x
  | .y => p.y

/-- The last value that is assigned on an axis. -/
def lastOn (axis : Axis) (moves : List (Axis × Number)) : Option Number :=
  (moves.filter (·.1 = axis)).getLast?.map Prod.snd

theorem lastOn_snoc (axis : Axis) (moves : List (Axis × Number)) (m : Axis × Number) :
    lastOn axis (moves ++ [m]) = if m.1 = axis then some m.2 else lastOn axis moves := by
  unfold lastOn
  rw [List.filter_append]
  by_cases h : m.1 = axis <;> simp [h]

namespace Position

theorem coordinate_set (p : Position) (axis axis' : Axis) (c : Number) :
    (p.set axis c).coordinate axis' = if axis = axis' then c.clamp else p.coordinate axis' := by
  cases axis <;> cases axis' <;> rfl

/-- On each axis the last value that was assigned counts, cut off at the limits. -/
theorem coordinate_setAll (moves : List (Axis × Number)) (p : Position) (axis : Axis) :
    (p.setAll moves).coordinate axis = ((lastOn axis moves).map Number.clamp).getD (p.coordinate axis) := by
  induction moves using List.reverseRecOn with
  | nil => rfl
  | append_singleton moves m ih =>
    rw [setAll_append, lastOn_snoc]
    change ((p.setAll moves).set m.1 m.2).coordinate axis = _
    rw [coordinate_set, ih]
    split <;> rfl

/-- On each axis the last value assigned, or else the one given, cut off at the limits. -/
def movedFrom (x y : Int) (moves : List (Axis × Number)) : Position :=
  ⟨((lastOn .x moves).getD (.whole x)).clamp, ((lastOn .y moves).getD (.whole y)).clamp⟩

theorem setAll_seed (population groups : Nat) (moves : List (Axis × Number)) :
    (seed population groups).setAll moves = movedFrom (100 + 100 * population) (100 * groups) moves := by
  have hx := coordinate_setAll moves (seed population groups) .x
  have hy := coordinate_setAll moves (seed population groups) .y
  have hclamp (last : Option Number) (c : Number) : (last.map Number.clamp).getD c.clamp = (last.getD c).clamp := by
    cases last <;> rfl
  exact congrArg₂ Position.mk (hx.trans (hclamp _ _)) (hy.trans (hclamp _ _))

end Position

/-- A reference is to an own node of a kind or to the node of a group of the kind, or it is of another kind. -/
@[elab_as_elim]
theorem NodeRef.casesOfKind (kind : Kind) {motive : NodeRef → Prop} (own : ∀ id, motive (.entity ⟨kind, id⟩))
    (group : ∀ n, motive (.group kind n)) (other : ∀ ref : NodeRef, ref.kind ≠ kind → motive ref)
    (ref : NodeRef) : motive ref := by
  by_cases hkind : ref.kind = kind
  · rcases ref with ⟨k, id⟩ | ⟨k, n⟩ <;> obtain rfl : k = kind := hkind
    · exact own id
    · exact group n
  · exact other ref hkind

/-! ### Own nodes -/

namespace Population

variable {α : Type} [Traced α] {limit : Int} {as bs : List α} {p q : Population α} {id : Int} {n : Nat}
  {s : Position}

/-- Where a node stands, if it is there. -/
def place? (p : Population α) (ref : NodeRef) : Option Position := (p.node? ref).map Node.position

theorem place?_of_other_kind {ref : NodeRef} (h : ref.kind ≠ Traced.kind α) : p.place? ref = none := by
  rw [place?, node?_of_other_kind h, Option.map_none]

theorem place?_own (p : Population α) (id : Int) :
    p.place? (.entity ⟨Traced.kind α, id⟩) = (p.table.get? id).map Placed.position := by
  rw [place?, node?, if_pos rfl, ownNode?, Option.map_map]
  rfl

/-- Every thing that was announced has an own node. -/
theorem Holds.isSome_place?_own_iff (h : p.Holds limit as) :
    (p.place? (.entity ⟨Traced.kind α, id⟩)).isSome ↔ id ∈ Announcements.ids as := by
  rw [place?_own, Option.isSome_map, Option.isSome_iff_exists, ← h.ids]
  exact ⟨fun ⟨_, he⟩ => Table.mem_keys_of_get? he, Table.get?_eq_some_of_mem_keys⟩

theorem place?_announce_own (p : Population α) (a : α) (id : Int) :
    (p.announce a).place? (.entity ⟨Traced.kind α, id⟩) =
      if id = Traced.id a then some (.seed (p.groups.grown (Traced.key a) a).size p.groups.size)
      else p.place? (.entity ⟨Traced.kind α, id⟩) := by
  rw [place?_own, place?_own, announce, Table.get?_set]
  split <;> rfl

theorem place?_announceAll_of_notMem (h : id ∉ bs.map Traced.id) :
    (announceAll bs p).place? (.entity ⟨Traced.kind α, id⟩) = p.place? (.entity ⟨Traced.kind α, id⟩) := by
  induction bs generalizing p with
  | nil => rfl
  | cons b bs ih =>
    rw [List.map_cons, List.mem_cons, not_or] at h
    rw [announceAll_cons, ih h.2, place?_announce_own, if_neg h.1]

/-- The own node of a thing is placed by its rank under its key and the number of keys before it. -/
theorem Holds.place?_announceAll (h : p.Holds limit as) {pre post : List α} {a : α}
    (hpost : Traced.id a ∉ post.map Traced.id) :
    (Population.announceAll (pre ++ a :: post) p).place? (.entity ⟨Traced.kind α, Traced.id a⟩) =
      some (.seed (sharing (as ++ pre ++ [a]) (Traced.key a)).length (Announcements.keys (as ++ pre)).length) := by
  have hpre := h.announceAll pre
  rw [announceAll_append, announceAll_cons, place?_announceAll_of_notMem hpost, place?_announce_own,
    if_pos rfl, (hpre.grown a).size_eq, hpre.groups_size]

/-! ### Nodes of groups -/

/-- Where the node of a key's group stands, if the group has one. -/
def groupPlace? (p : Population α) (key : String) : Option Position := (p.groups.get? key).bind Group.place

theorem Holds.mem_keys_of_groupPlace? (h : p.Holds limit as) {key : String} (hs : p.groupPlace? key = some s) :
    key ∈ Announcements.keys as := by
  obtain ⟨g, hg, -⟩ := Option.bind_eq_some_iff.1 hs
  exact h.mem_keys_of_get? hg

/-- The node of a number is that of the group of the key with the number. -/
theorem Holds.place?_group_eq_some_iff (h : p.Holds limit as) :
    p.place? (.group (Traced.kind α) n) = some s ↔
      ∃ key, p.groupPlace? key = some s ∧ Announcements.number as key = n := by
  rw [place?, node?, if_pos rfl, groupNode?]
  constructor
  · intro hs
    obtain ⟨node, hnode, rfl⟩ := Option.map_eq_some_iff.1 hs
    obtain ⟨g, hg, hnode⟩ := Option.bind_eq_some_iff.1 hnode
    obtain ⟨place, hplace, rfl⟩ := Option.map_eq_some_iff.1 hnode
    obtain ⟨e, he, rfl⟩ := List.mem_map.1 (List.mem_of_find?_eq_some hg)
    have hget : p.groups.get? e.1 = some e.2 := Table.get?_of_mem he
    have hid : e.2.id = n := by simpa using List.find?_some hg
    refine ⟨e.1, ?_, ?_⟩
    · rw [groupPlace?, hget]
      exact hplace
    · rw [← (h.group_number hget).1, hid]
  · rintro ⟨key, hs, rfl⟩
    obtain ⟨g, hg, hplace⟩ := Option.bind_eq_some_iff.1 hs
    rw [h.byId? hg, Option.bind_some, Group.node?, hplace]
    rfl

/-- Populations of the same things with the same places show their nodes at the same places. -/
theorem Holds.place?_congr (hp : p.Holds limit as) (hq : q.Holds limit as)
    (hown : ∀ id, q.place? (.entity ⟨Traced.kind α, id⟩) = p.place? (.entity ⟨Traced.kind α, id⟩))
    (hgroups : ∀ key, q.groupPlace? key = p.groupPlace? key) (ref : NodeRef) : q.place? ref = p.place? ref := by
  induction ref using NodeRef.casesOfKind (Traced.kind α) with
  | own id => exact hown id
  | group n =>
    apply Option.ext
    intro s
    simp only [hp.place?_group_eq_some_iff, hq.place?_group_eq_some_iff, hgroups]
  | other ref hkind => rw [place?_of_other_kind hkind, place?_of_other_kind hkind]

theorem groupPlace?_announce (p : Population α) (a : α) (key : String) :
    (p.announce a).groupPlace? key = p.groupPlace? key := by
  rw [groupPlace?, groupPlace?, announce, GroupTable.get?, GroupTable.add, Table.get?_set]
  split
  · next hkey =>
    rw [hkey, GroupTable.grown]
    cases p.groups.get? (Traced.key a) <;> rfl
  · rfl

theorem groupPlace?_announceAll (bs : List α) (p : Population α) (key : String) :
    (announceAll bs p).groupPlace? key = p.groupPlace? key := by
  induction bs generalizing p with
  | nil => rfl
  | cons b bs ih => rw [announceAll_cons, ih, groupPlace?_announce]

/-- Announcements give no group a node and leave those that are there. -/
theorem Holds.place?_group_announceAll (h : p.Holds limit as) (bs : List α) (n : Nat) :
    (Population.announceAll bs p).place? (.group (Traced.kind α) n) = p.place? (.group (Traced.kind α) n) := by
  apply Option.ext
  intro s
  rw [(h.announceAll bs).place?_group_eq_some_iff, h.place?_group_eq_some_iff]
  -- keys that come later are numbered behind those that are there
  refine exists_congr fun key => ?_
  rw [groupPlace?_announceAll]
  refine and_congr_right fun hs => ?_
  rw [number_append (h.mem_keys_of_groupPlace? hs)]

/-- As long as no id comes twice, announcements leave the nodes that are there where they are. -/
theorem Holds.place?_announceAll_of_some (h : p.Holds limit as) (hids : ((as ++ bs).map Traced.id).Nodup)
    {ref : NodeRef} (hs : p.place? ref = some s) : (Population.announceAll bs p).place? ref = some s := by
  induction ref using NodeRef.casesOfKind (Traced.kind α) with
  | own id =>
    have hid : id ∈ as.map Traced.id := by
      rw [← List.mem_eraseDups, ← Announcements.ids, ← h.isSome_place?_own_iff, hs]
      rfl
    rw [List.map_append, List.nodup_append] at hids
    rw [place?_announceAll_of_notMem fun hnew => hids.2.2 id hid id hnew rfl, hs]
  | group n => rw [h.place?_group_announceAll, hs]
  | other ref hkind => cases (place?_of_other_kind hkind).symm.trans hs

/-- A node that comes by announcements is the own node of a thing, and is placed by the thing's rank under
its key and the number of keys that came before it. -/
theorem Holds.seed_of_place?_announceAll (h : p.Holds limit as) (hids : ((as ++ bs).map Traced.id).Nodup)
    {ref : NodeRef} (hnone : p.place? ref = none) (hs : (Population.announceAll bs p).place? ref = some s) :
    ∃ pre a post, bs = pre ++ a :: post ∧ ref = ownRef a ∧
      s = .seed (sharing (as ++ pre ++ [a]) (Traced.key a)).length
        (Announcements.keys (as ++ pre)).length := by
  induction ref using NodeRef.casesOfKind (Traced.kind α) with
  | own id =>
    by_cases hid : id ∈ bs.map Traced.id
    · obtain ⟨a, ha, rfl⟩ := List.mem_map.1 hid
      obtain ⟨pre, post, rfl⟩ := List.append_of_mem ha
      have hpost : Traced.id a ∉ post.map Traced.id := by
        rw [List.map_append, List.map_append, List.map_cons] at hids
        exact (List.nodup_cons.1 hids.of_append_right.of_append_right).1
      rw [h.place?_announceAll hpost] at hs
      exact ⟨pre, a, post, rfl, rfl, (Option.some.inj hs).symm⟩
    · rw [place?_announceAll_of_notMem hid] at hs
      cases hnone.symm.trans hs
  | group n =>
    rw [h.place?_group_announceAll] at hs
    cases hnone.symm.trans hs
  | other ref hkind => cases (place?_of_other_kind hkind).symm.trans hs

/-! ### Promotion -/

omit [Traced α] in
theorem groupPlace?_settled (p : Population α) (key : String) :
    p.settled.groupPlace? key = (p.groups.get? key).bind fun g =>
      if p.groups.isCrowded g then some (g.place.getD (.seed g.size p.groups.size)) else g.place := by
  rw [groupPlace?, settled, GroupTable.settled, GroupTable.get?_mapGroups, Option.bind_map]
  congr 1
  funext g
  simp only [Function.comp]
  split
  · unfold Group.promote
    cases hplace : g.place <;> simp [hplace]
  · rfl

/-- Nodes that are there stay where they are when others come by promotion. -/
theorem Holds.place?_settled (h : p.Holds limit as) {ref : NodeRef} (hs : p.place? ref = some s) :
    p.settled.place? ref = some s := by
  induction ref using NodeRef.casesOfKind (Traced.kind α) with
  | own id => exact hs
  | group n =>
    rw [h.place?_group_eq_some_iff] at hs
    rw [h.settled.place?_group_eq_some_iff]
    obtain ⟨key, hs, hn⟩ := hs
    obtain ⟨g, hg, hplace⟩ := Option.bind_eq_some_iff.1 hs
    refine ⟨key, ?_, hn⟩
    rw [groupPlace?_settled, hg, Option.bind_some, hplace]
    split <;> rfl
  | other ref hkind => cases (place?_of_other_kind hkind).symm.trans hs

/-- A node that comes by promotion is that of a crowded group, and is placed by the group's size and the
number of groups. -/
theorem Holds.seed_of_place?_settled (h : p.Holds limit as) {ref : NodeRef} (hnone : p.place? ref = none)
    (hs : p.settled.place? ref = some s) :
    ∃ key, Crowded limit as key ∧ ref = .group (Traced.kind α) (Announcements.number as key) ∧
      s = .seed (sharing as key).length (Announcements.keys as).length := by
  induction ref using NodeRef.casesOfKind (Traced.kind α) with
  | own id => cases hnone.symm.trans hs
  | group n =>
    obtain ⟨key, hkey, rfl⟩ := h.settled.place?_group_eq_some_iff.1 hs
    rw [groupPlace?_settled] at hkey
    obtain ⟨g, hg, hgiven⟩ := Option.bind_eq_some_iff.1 hkey
    -- a group that had a place would have had the node
    have hplace : g.place = none := by
      cases hplace : g.place with
      | none => rfl
      | some s' =>
        have hold : p.groupPlace? key = some s' := by rw [groupPlace?, hg, Option.bind_some, hplace]
        cases hnone.symm.trans (h.place?_group_eq_some_iff.2 ⟨key, hold, rfl⟩)
    rw [hplace, Option.getD_none, (h.group_number hg).2, h.groups_size] at hgiven
    split at hgiven
    · next hc => exact ⟨key, (h.isCrowded_iff hg).1 hc, rfl, (Option.some.inj hgiven).symm⟩
    · cases hgiven
  | other ref hkind => cases (place?_of_other_kind hkind).symm.trans hs

/-- Promotion gives each crowded group a node. -/
theorem Holds.exists_place?_settled (h : p.Holds limit as) {key : String} (hkey : key ∈ Announcements.keys as)
    (hc : Crowded limit as key) :
    ∃ s, p.settled.place? (.group (Traced.kind α) (Announcements.number as key)) = some s := by
  obtain ⟨members, s, hnode, -⟩ := h.node?_group hkey hc
  exact ⟨s, by rw [place?, hnode, Option.map_some]⟩

/-- As long as no id comes twice, a listing meets every group. -/
theorem Holds.listed_eq_settled (h : p.Holds limit as) (hids : (as.map Traced.id).Nodup) :
    p.listed = p.settled := by
  have hgroups : p.groups.promotedAt p.metKeys = p.groups.settled := by
    apply GroupTable.mapGroups_congr
    intro key g hg
    have hmet : key ∈ p.metKeys ↔ p.groups.isCrowded g = true := by
      constructor
      · intro hkey
        obtain ⟨g', hg', hc⟩ := mem_metKeys hkey
        rwa [Option.some.inj (hg.symm.trans hg')]
      · intro hc
        obtain ⟨a, ha, rfl⟩ := mem_keys.1 (h.mem_keys_of_get? hg)
        obtain ⟨e, he, -, ht⟩ := h.entry_of_latest? (latest?_of_mem hids ha)
        have hkey : Traced.key e.2.item = Traced.key a := congrArg Traits.key ht
        rw [← hkey]
        exact h.mem_metKeys_of_crowded he (by rw [hkey]; exact (h.isCrowded_iff hg).1 hc)
    simp only [hmet]
  rw [Population.listed, Population.settled, hgroups]

/-- Running flags move nothing. -/
theorem Holds.place?_flagged {p q : Population Activity} {as : List Activity} (h : p.Holds limit as)
    (hq : Flagged p q) (ref : NodeRef) : q.place? ref = p.place? ref := by
  refine h.place?_congr (h.flagged hq) ?_ ?_ ref <;> obtain ⟨f, g, rfl, hf, hg⟩ := hq
  · intro id
    rw [place?_own, place?_own, Table.get?_mapValues, Option.map_map]
    congr 1
    funext e
    exact (hf id e).2
  · intro key
    rw [groupPlace?, groupPlace?, GroupTable.get?_mapGroups, Option.bind_map]
    congr 1
    funext x
    exact (hg key x).2.2

end Population

end TraceGraph
