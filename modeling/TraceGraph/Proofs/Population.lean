import TraceGraph.Population
import TraceGraph.Proofs.Announcements
import TraceGraph.Proofs.Group
import Mathlib.Logic.Function.Iterate

/-! What a population holds is told by the announcements that it has taken in: the ids in the order of
arrival with their last announcements, and the groups, numbered as their keys came, with every
announcement of the key. Listings, promotions, moves and running flags leave all of this alone, so the
nodes of a listing and the node that stands for an id can be read off the announcements. -/

namespace TraceGraph

open Announcements Traced

variable {α : Type} [Traced α] {limit : Int} {as : List α}

/-! ### Groups -/

/-- A group has its number, the announcements of its key, and a node only if it is crowded. -/
structure Group.Holds (g : Group α) (limit : Int) (as : List α) (key : String) : Prop where
  number : g.id = number as key
  members : g.members.map traits = (sharing as key).map traits
  promoted : g.isPromoted = true → limit < g.size

namespace Group

theorem Holds.size_eq {g : Group α} {key : String} (h : g.Holds limit as key) :
    g.size = (sharing as key).length := by
  have hlen := congrArg List.length h.members
  simpa [size] using hlen

theorem Holds.crowded {g : Group α} {key : String} (h : g.Holds limit as key)
    (hp : g.isPromoted = true) : Crowded limit as key := by
  rw [Crowded, ← h.size_eq]
  exact h.promoted hp

theorem Holds.snoc_of_ne {g : Group α} {key : String} (h : g.Holds limit as key) (hkey : key ∈ keys as)
    {a : α} (hne : key ≠ Traced.key a) : g.Holds limit (as ++ [a]) key := by
  refine ⟨?_, ?_, h.promoted⟩
  · rw [number_snoc_of_mem hkey]
    exact h.number
  · rw [sharing_snoc, if_neg hne]
    exact h.members

theorem Holds.add {g : Group α} {a : α} (h : g.Holds limit as (Traced.key a))
    (hkey : Traced.key a ∈ keys as) : (g.add a).Holds limit (as ++ [a]) (Traced.key a) := by
  refine ⟨?_, ?_, ?_⟩
  · rw [number_snoc_of_mem hkey]
    exact h.number
  · rw [sharing_snoc, if_pos rfl, List.map_append, ← h.members]
    simp [Group.add]
  · intro hp
    have hlt := h.promoted hp
    simp only [size, Group.add, List.length_append, List.length_singleton] at hlt ⊢
    omega

theorem holds_new {a : α} (hkey : Traced.key a ∉ keys as) :
    (Group.add ⟨(keys as).length, [], none⟩ a).Holds limit (as ++ [a]) (Traced.key a) := by
  have hnone : sharing as (Traced.key a) = [] := by
    rw [sharing, List.filter_eq_nil_iff]
    intro b hb
    simpa using fun he => hkey (mem_keys.2 ⟨b, hb, he⟩)
  refine ⟨?_, ?_, ?_⟩
  · exact (number_snoc_self hkey).symm
  · rw [sharing_snoc, if_pos rfl, hnone]
    simp [Group.add]
  · intro hp
    simp [Group.add, isPromoted] at hp

end Group

namespace Population

/-! ### Populations -/

structure Holds (p : Population α) (limit : Int) (as : List α) : Prop where
  kind : p.groups.kind = Traced.kind α
  drawn : Traced.kind α ≠ .dynamicScope
  threshold : p.groups.threshold = limit
  ids : p.table.keys = ids as
  latest : ∀ id, (p.table.get? id).map (fun e => traits e.item) = (latest? as id).map traits
  keys : p.groups.groups.keys = keys as
  groups : ∀ key g, p.groups.get? key = some g → g.Holds limit as key

theorem holds_empty (hkind : Traced.kind α ≠ .dynamicScope) (limit : Int) :
    (empty limit : Population α).Holds limit [] where
  kind := rfl
  drawn := hkind
  threshold := rfl
  ids := rfl
  latest _ := rfl
  keys := rfl
  groups _ _ h := by simp [empty, GroupTable.empty, GroupTable.get?] at h

theorem Holds.mem_keys_of_get? {p : Population α} (h : p.Holds limit as) {key : String} {g : Group α}
    (hg : p.groups.get? key = some g) : key ∈ Announcements.keys as := by
  rw [← h.keys]
  exact Table.mem_keys_of_get? hg

theorem Holds.groups_size {p : Population α} (h : p.Holds limit as) :
    p.groups.size = (Announcements.keys as).length := by
  rw [GroupTable.size, Table.size_eq_length_keys, h.keys]

theorem Holds.grown {p : Population α} (h : p.Holds limit as) (a : α) :
    (p.groups.grown (key a) a).Holds limit (as ++ [a]) (key a) := by
  unfold GroupTable.grown
  cases hg : p.groups.get? (key a) with
  | some g => exact (h.groups _ g hg).add (h.mem_keys_of_get? hg)
  | none =>
    have hkey : key a ∉ Announcements.keys as := by
      rw [← h.keys]
      exact (Table.get?_eq_none_iff _ _).1 hg
    rw [Option.getD_none, h.groups_size]
    exact Group.holds_new hkey

theorem Holds.announce {p : Population α} (h : p.Holds limit as) (a : α) :
    (p.announce a).Holds limit (as ++ [a]) where
  kind := h.kind
  drawn := h.drawn
  threshold := h.threshold
  ids := by
    rw [Population.announce, Table.keys_set, h.ids, ids_snoc]
  latest id := by
    rw [Population.announce, Table.get?_set, latest?_snoc]
    split
    · rfl
    · exact h.latest id
  keys := by
    rw [Population.announce, GroupTable.add, Table.keys_set, h.keys, keys_snoc]
  groups key g hg := by
    rw [Population.announce, GroupTable.get?, GroupTable.add, Table.get?_set] at hg
    split at hg
    · next hkey =>
      obtain rfl := Option.some.inj hg
      rw [hkey]
      exact h.grown a
    · next hkey => exact (h.groups key g hg).snoc_of_ne (h.mem_keys_of_get? hg) hkey

theorem Holds.announceAll {p : Population α} (h : p.Holds limit as) (bs : List α) :
    (announceAll bs p).Holds limit (as ++ bs) := by
  induction bs generalizing p as with
  | nil => simpa using h
  | cons b bs ih =>
    have hb := ih (h.announce b)
    rwa [List.append_assoc, List.singleton_append] at hb

/-- Nothing that a population holds changes with places, running flags and promotions of crowded
groups. -/
theorem Holds.map {p : Population α} (h : p.Holds limit as) {f : Int → Placed α → Placed α}
    {g : String → Group α → Group α} (hf : ∀ id e, traits (f id e).item = traits e.item)
    (hg : ∀ key x, p.groups.get? key = some x → x.Holds limit as key →
      (g key x).Holds limit as key) :
    Holds ⟨p.table.mapValues f, p.groups.mapGroups g⟩ limit as where
  kind := h.kind
  drawn := h.drawn
  threshold := h.threshold
  ids := by rw [Table.keys_mapValues, h.ids]
  latest id := by
    rw [Table.get?_mapValues, ← h.latest id, Option.map_map]
    congr 1
    funext e
    exact hf id e
  keys := by rw [GroupTable.mapGroups_keys, h.keys]
  groups key x hx := by
    rw [GroupTable.get?_mapGroups] at hx
    obtain ⟨y, hy, rfl⟩ := Option.map_eq_some_iff.1 hx
    exact hg key y hy (h.groups key y hy)

theorem Holds.mapGroups {p : Population α} (h : p.Holds limit as) {g : String → Group α → Group α}
    (hg : ∀ key x, p.groups.get? key = some x → x.Holds limit as key →
      (g key x).Holds limit as key) :
    Holds { p with groups := p.groups.mapGroups g } limit as := by
  have hm := h.map (f := fun _ e => e) (fun _ _ => rfl) hg
  rwa [Table.mapValues_eq_self fun _ _ => rfl] at hm

theorem Holds.mapTable {p : Population α} (h : p.Holds limit as) {f : Int → Placed α → Placed α}
    (hf : ∀ id e, traits (f id e).item = traits e.item) :
    Holds { p with table := p.table.mapValues f } limit as := by
  have hm := h.map (g := fun _ x => x) hf (fun _ _ _ hx => hx)
  rwa [GroupTable.mapGroups_eq_self fun _ _ _ => rfl] at hm

/-! ### Moves -/

theorem Holds.assignOwn {p : Population α} (h : p.Holds limit as) (id : Int) (axis : Axis) (c : Number) :
    (p.assignOwn id axis c).Holds limit as := by
  rw [Population.assignOwn, Table.modify_eq_mapValues]
  apply h.mapTable
  intro j e
  split <;> rfl

theorem Holds.assignGroup {p : Population α} (h : p.Holds limit as) (id : Nat) (axis : Axis)
    (c : Number) : (p.assignGroup id axis c).Holds limit as := by
  unfold Population.assignGroup
  split
  · rw [GroupTable.modify_eq_mapGroups]
    apply h.mapGroups
    intro key g _ hh
    split
    · exact ⟨hh.number, hh.members, fun hp => hh.promoted (by rwa [Group.isPromoted_set] at hp)⟩
    · exact hh
  · exact h

/-! ### Running flags -/

/-- Populations that differ at most in running flags. -/
def Flagged (p q : Population Activity) : Prop :=
  ∃ (f : Int → Placed Activity → Placed Activity) (g : String → Group Activity → Group Activity),
    q = ⟨p.table.mapValues f, p.groups.mapGroups g⟩ ∧
    (∀ id e, traits (f id e).item = traits e.item ∧ (f id e).position = e.position) ∧
    ∀ key x, (g key x).id = x.id ∧ (g key x).members.map traits = x.members.map traits ∧
      (g key x).place = x.place

theorem Flagged.refl (p : Population Activity) : Flagged p p := by
  refine ⟨fun _ e => e, fun _ x => x, ?_, fun _ _ => ⟨rfl, rfl⟩, fun _ _ => ⟨rfl, rfl, rfl⟩⟩
  rw [Table.mapValues_eq_self fun _ _ => rfl, GroupTable.mapGroups_eq_self fun _ _ _ => rfl]

theorem Holds.flagged {p q : Population Activity} {as : List Activity} (h : p.Holds limit as)
    (hq : Flagged p q) : q.Holds limit as := by
  obtain ⟨f, g, rfl, hf, hg⟩ := hq
  apply h.map fun id e => (hf id e).1
  intro key x _ hh
  obtain ⟨hid, hmembers, hplace⟩ := hg key x
  refine ⟨hid.trans hh.number, hmembers.trans hh.members, fun hp => ?_⟩
  have hlen := congrArg List.length hmembers
  rw [List.length_map, List.length_map] at hlen
  rw [Group.size, hlen]
  exact hh.promoted (by rwa [Group.isPromoted, ← hplace])

theorem traits_running (a : Activity) (running : Bool) : traits { a with running } = traits a := rfl

theorem map_traits_modifyLast (test : Activity → Bool) (running : Bool) (as : List Activity) :
    (modifyLast test (fun a => { a with running }) as).map traits = as.map traits := by
  induction as with
  | nil => rfl
  | cons a as ih =>
    rw [modifyLast]
    split
    · rw [List.map_cons, List.map_cons, traits_running]
    · rw [List.map_cons, List.map_cons, ih]

theorem flagged_setOwnRunning (p : Population Activity) (id : Int) (running : Bool) :
    Flagged p (p.setOwnRunning id running) := by
  unfold setOwnRunning
  split
  · exact .refl p
  · dsimp only
    rw [Table.modify_eq_mapValues, GroupTable.modify_eq_mapGroups]
    refine ⟨_, _, rfl, fun j e => ?_, fun key x => ?_⟩
    · split <;> exact ⟨rfl, rfl⟩
    · split
      · exact ⟨rfl, map_traits_modifyLast (·.id = id) running x.members, rfl⟩
      · exact ⟨rfl, rfl, rfl⟩

theorem Holds.setOwnRunning {p : Population Activity} {as : List Activity} (h : p.Holds limit as)
    (id : Int) (running : Bool) : (p.setOwnRunning id running).Holds limit as :=
  h.flagged (flagged_setOwnRunning p id running)

/-- Changes made at one id after the other are one change of the whole table. -/
theorem foldl_modify_eq_mapValues {ν : Type} (ids : List Int) (f : ν → ν) (t : Table Int ν) :
    ids.foldl (fun t id => t.modify id f) t = t.mapValues fun j v => f^[ids.count j] v := by
  induction ids generalizing t with
  | nil => exact (Table.mapValues_eq_self fun _ _ => rfl).symm
  | cons id ids ih =>
    rw [List.foldl_cons, ih, Table.modify_eq_mapValues, Table.mapValues_mapValues]
    congr 1
    funext j v
    by_cases hj : j = id
    · subst hj
      rw [if_pos rfl, List.count_cons_self, Function.iterate_succ_apply]
    · rw [if_neg hj, List.count_cons_of_ne (Ne.symm hj)]

theorem flagged_setGroupRunning (p : Population Activity) (id : Nat) (ids : List Int) (running : Bool) :
    Flagged p (p.setGroupRunning id ids running) := by
  unfold setGroupRunning
  split
  · exact .refl p
  · next key _ _ =>
    let f : Activity → Activity := fun a => if a.id ∈ ids then { a with running } else a
    let change : Placed Activity → Placed Activity := fun e =>
      if e.item.name = key then { e with item := f e.item } else e
    have hf : ∀ a, traits (f a) = traits a := by
      intro a
      unfold f
      split <;> rfl
    have hchange : ∀ e, traits (change e).item = traits e.item ∧ (change e).position = e.position := by
      intro e
      unfold change
      split
      · exact ⟨hf e.item, rfl⟩
      · exact ⟨rfl, rfl⟩
    have hiter : ∀ n e, traits (change^[n] e).item = traits e.item ∧
        (change^[n] e).position = e.position := by
      intro n
      induction n with
      | zero => exact fun e => ⟨rfl, rfl⟩
      | succ n ih =>
        intro e
        rw [Function.iterate_succ_apply]
        exact ⟨(ih _).1.trans (hchange e).1, (ih _).2.trans (hchange e).2⟩
    change Flagged p ⟨ids.foldl (fun t id => t.modify id change) p.table,
      p.groups.modify key (·.mapMembers f)⟩
    rw [foldl_modify_eq_mapValues, GroupTable.modify_eq_mapGroups]
    refine ⟨_, _, rfl, fun j e => hiter _ e, fun k x => ?_⟩
    split
    · refine ⟨rfl, ?_, rfl⟩
      rw [Group.mapMembers, List.map_map]
      exact List.map_congr_left fun a _ => hf a
    · exact ⟨rfl, rfl, rfl⟩

theorem Holds.setGroupRunning {p : Population Activity} {as : List Activity} (h : p.Holds limit as)
    (id : Nat) (ids : List Int) (running : Bool) : (p.setGroupRunning id ids running).Holds limit as :=
  h.flagged (flagged_setGroupRunning p id ids running)

end Population

end TraceGraph
