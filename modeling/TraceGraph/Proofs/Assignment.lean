import TraceGraph.Proofs.Run
import TraceGraph.Proofs.Snapshot

/-! Assignments of coordinates. Assigning a coordinate of a node moves that node and leaves every other
node as it is, listed or not. A move by data id assigns the coordinates given to the node that the id
finds, after both listings. -/

namespace TraceGraph

open Announcements Traced

/-! ### One node moves -/

theorem Group.node?_set {α : Type} (g : Group α) (axis : Axis) (c : Number) :
    (g.set axis c).node? = g.node?.map (·.set axis c) := by
  unfold set node?
  cases g.place <;> rfl

namespace GroupTable

variable {α : Type} {t : GroupTable α}

theorem byId?_eq_find? (t : GroupTable α) (id : Nat) :
    t.byId? id = (t.groups.entries.find? (·.2.id = id)).map Prod.snd := by
  rw [byId?, toList, Table.values, List.find?_map]
  rfl

/-- The group of a number is changed at the key where it stands, and no other group is. -/
theorem byId?_modify {id : Nat} {e : String × Group α}
    (he : t.groups.entries.find? (·.2.id = id) = some e) {f : Group α → Group α}
    (hf : ∀ g, (f g).id = g.id) (j : Nat) :
    (t.modify e.1 f).byId? j = (t.byId? j).map fun g => if j = id then f g else g := by
  have hid : e.2.id = id := by simpa using List.find?_some he
  have htest : (fun x : String × Group α => decide (x.2.id = j)) ∘ Table.change e.1 f =
      fun x => decide (x.2.id = j) := by
    funext x
    unfold Table.change
    by_cases hx : x.1 = e.1 <;> simp [hx, hf]
  rw [byId?_eq_find?, byId?_eq_find?, modify, Table.modify, List.find?_map, htest]
  cases hj : t.groups.entries.find? (·.2.id = j) with
  | none => rfl
  | some x =>
    have hxj : x.2.id = j := by simpa using List.find?_some hj
    simp only [Option.map_some, Option.some.injEq, Table.change]
    by_cases hji : j = id
    · subst hji
      obtain rfl := Option.some.inj (he.symm.trans hj)
      simp
    · have hkey : x.1 ≠ e.1 := by
        intro hkey
        have hx := Table.get?_of_mem (List.mem_of_find?_eq_some hj)
        rw [hkey, Table.get?_of_mem (List.mem_of_find?_eq_some he)] at hx
        rw [← hxj, ← hid, Option.some.inj hx] at hji
        exact hji rfl
      rw [if_neg hkey, if_neg hji]

end GroupTable

namespace Population

variable {α : Type} [Traced α] (p : Population α)

theorem node?_assignOwn (id : Int) (axis : Axis) (c : Number) (ref : NodeRef) :
    (p.assignOwn id axis c).node? ref =
      if ref = .entity ⟨Traced.kind α, id⟩ then (p.node? ref).map (·.set axis c) else p.node? ref := by
  rcases ref with ⟨kind, j⟩ | ⟨kind, n⟩
  · by_cases hkind : kind = Traced.kind α
    · subst hkind
      rw [node?, node?, if_pos rfl, if_pos rfl, ownNode?, ownNode?, assignOwn, Table.get?_modify]
      by_cases hj : j = id
      · subst hj
        rw [if_pos rfl]
        cases p.table.get? j <;> simp [Node.set]
      · have hne : NodeRef.entity ⟨Traced.kind α, j⟩ ≠ .entity ⟨Traced.kind α, id⟩ := by simpa using hj
        rw [if_neg hne]
        simp [hj]
    · have hne : NodeRef.entity ⟨kind, j⟩ ≠ .entity ⟨Traced.kind α, id⟩ := by simp [hkind]
      rw [if_neg hne, node?, node?, if_neg hkind, if_neg hkind]
  · have hne : NodeRef.group kind n ≠ .entity ⟨Traced.kind α, id⟩ := by simp
    rw [if_neg hne]
    rfl

theorem node?_assignGroup (id : Nat) (axis : Axis) (c : Number) (ref : NodeRef) :
    (p.assignGroup id axis c).node? ref =
      if ref = .group (Traced.kind α) id then (p.node? ref).map (·.set axis c) else p.node? ref := by
  unfold assignGroup
  cases he : p.groups.groups.entries.find? (·.2.id = id) with
  | none =>
    dsimp only
    split
    · next href =>
      have hnone : p.node? ref = none := by
        rw [href, node?, if_pos rfl, groupNode?, GroupTable.byId?_eq_find?, he]
        rfl
      rw [hnone, Option.map_none]
    · rfl
  | some e =>
    dsimp only
    rcases ref with e' | ⟨kind, n⟩
    · have hne : NodeRef.entity e' ≠ .group (Traced.kind α) id := by simp
      rw [if_neg hne]
      rfl
    · by_cases hkind : kind = Traced.kind α
      · subst hkind
        have hbyId := GroupTable.byId?_modify he (f := (·.set axis c)) (fun _ => rfl) n
        rw [node?, node?, if_pos rfl, if_pos rfl, groupNode?, groupNode?, hbyId]
        by_cases hn : n = id
        · subst hn
          rw [if_pos rfl]
          cases p.groups.byId? n with
          | none => rfl
          | some g => simpa using g.node?_set axis c
        · have hne : NodeRef.group (Traced.kind α) n ≠ .group (Traced.kind α) id := by simpa using hn
          rw [if_neg hne]
          simp [hn]
      · have hne : NodeRef.group kind n ≠ .group (Traced.kind α) id := by simp [hkind]
        rw [if_neg hne, node?, node?, if_neg hkind, if_neg hkind]

end Population

namespace AnyNode

def position : AnyNode → Position
  | activity n => n.position
  | passive n => n.position

def set (axis : Axis) (c : Number) : AnyNode → AnyNode
  | activity n => activity (n.set axis c)
  | passive n => passive (n.set axis c)

@[simp] theorem position_set (axis : Axis) (c : Number) (n : AnyNode) :
    (n.set axis c).position = n.position.set axis c := by
  cases n <;> rfl

/-- The node with the coordinates given, x before y. -/
def place (x y : Option Number) (n : AnyNode) : AnyNode :=
  let n := x.elim n (n.set .x)
  y.elim n (n.set .y)

theorem position_place (x y : Option Number) (n : AnyNode) :
    (n.place x y).position =
      ⟨(x.map Number.clamp).getD n.position.x, (y.map Number.clamp).getD n.position.y⟩ := by
  cases x <;> cases y <;> simp [place, Position.set]

/-- A node that is moved is shown as before, but for its coordinates. -/
theorem summary?_set (axis : Axis) (c : Number) (n : AnyNode) :
    (n.set axis c).summary? =
      n.summary?.map fun s => { s with
        x := (n.position.set axis c).x
        y := (n.position.set axis c).y } := by
  cases n with
  | activity n =>
    simp only [set, summary?, Node.summary?, Option.map_map]
    rfl
  | passive n =>
    simp only [set, summary?, Node.summary?, Option.map_map]
    rfl

theorem summary?_place {s : NodeSummary} (x y : Option Number) {n : AnyNode} (h : n.summary? = some s) :
    ∃ s', (n.place x y).summary? = some s' ∧ s'.dataId = s.dataId := by
  cases x <;> cases y <;> simp [place, summary?_set, h]

end AnyNode

namespace View

variable {v w : View} {past : History}

/-- What changes one node of the activities changes that node of the view. -/
theorem node?_setActivities {p : Population Activity} {ref : NodeRef} {axis : Axis} {c : Number}
    (hpassives : v.passives.node? ref = none)
    (hp : ∀ r, p.node? r =
      if r = ref then (v.activities.node? r).map (·.set axis c) else v.activities.node? r)
    (r : NodeRef) :
    View.node? { v with activities := p } r =
      if r = ref then (v.node? r).map (·.set axis c) else v.node? r := by
  by_cases hr : r = ref
  · subst hr
    rw [if_pos rfl, node?_activities hpassives, node?_activities (v := { v with activities := p }) hpassives,
      hp, if_pos rfl, Option.map_map, Option.map_map]
    rfl
  · rw [if_neg hr, node?_eq_or, node?_eq_or, hp, if_neg hr]

/-- What changes one node of the passive entities changes that node of the view. -/
theorem node?_setPassives {p : Population PassiveEntity} {ref : NodeRef} {axis : Axis} {c : Number}
    (hactivities : v.activities.node? ref = none)
    (hp : ∀ r, p.node? r =
      if r = ref then (v.passives.node? r).map (·.set axis c) else v.passives.node? r)
    (r : NodeRef) :
    View.node? { v with passives := p } r =
      if r = ref then (v.node? r).map (·.set axis c) else v.node? r := by
  by_cases hr : r = ref
  · subst hr
    rw [if_pos rfl, node?_passives hactivities, node?_passives (v := { v with passives := p }) hactivities,
      hp, if_pos rfl, Option.map_map, Option.map_map]
    rfl
  · rw [if_neg hr, node?_eq_or, node?_eq_or, hp, if_neg hr]

/-- An assignment moves the node that it is made to and no other. -/
theorem node?_assign (v : View) (ref : NodeRef) (axis : Axis) (c : Number) (r : NodeRef) :
    (v.assign ref axis c).node? r = if r = ref then (v.node? r).map (·.set axis c) else v.node? r := by
  rcases ref with ⟨kind, id⟩ | ⟨kind, n⟩
  · cases kind with
    | activity => exact node?_setActivities rfl (v.activities.node?_assignOwn id axis c) r
    | passiveEntity => exact node?_setPassives rfl (v.passives.node?_assignOwn id axis c) r
    | dynamicScope =>
      split
      · next hr => rw [hr]; rfl
      · rfl
  · cases kind with
    | activity => exact node?_setActivities rfl (v.activities.node?_assignGroup n axis c) r
    | passiveEntity => exact node?_setPassives rfl (v.passives.node?_assignGroup n axis c) r
    | dynamicScope =>
      split
      · next hr => rw [hr]; rfl
      · rfl

/-! ### Moves -/

/-- Assign a coordinate if one is given. -/
def assign? (v : View) (ref : NodeRef) (axis : Axis) (c : Option Number) : View :=
  c.elim v (v.assign ref axis)

/-- Assign the coordinates given, x before y. -/
def place (v : View) (ref : NodeRef) (x y : Option Number) : View :=
  (v.assign? ref .x x).assign? ref .y y

theorem node?_place (v : View) (ref : NodeRef) (x y : Option Number) (r : NodeRef) :
    (v.place ref x y).node? r = if r = ref then (v.node? r).map (·.place x y) else v.node? r := by
  by_cases hr : r = ref
  · subst hr
    rw [if_pos rfl]
    cases x <;> cases y <;>
      simp [place, assign?, node?_assign, AnyNode.place, Option.map_map, Function.comp_def]
  · rw [if_neg hr]
    cases x <;> cases y <;> simp [place, assign?, node?_assign, hr]

theorem assignGiven_toJson (v : View) (ref : NodeRef) (axis : Axis) (c : Option Number) :
    v.assignGiven ref axis (c.map Number.toJson) = .ok (v.assign? ref axis c) := by
  cases c with
  | none => rfl
  | some c =>
    simp only [Option.map_some, assignGiven, Fault.comparable, Number.ofJson?_toJson]
    rfl

theorem eq_assign?_of_assignGiven {ref : NodeRef} {axis : Axis} {given : Option Json}
    (h : v.assignGiven ref axis given = .ok w) : w = v.assign? ref axis (given.bind Number.ofJson?) := by
  cases given with
  | none => exact (Except.ok.inj h).symm
  | some value =>
    rw [assignGiven, Fault.comparable] at h
    rw [Option.bind_some]
    cases hc : Number.ofJson? value with
    | none =>
      rw [hc] at h
      cases h
    | some c =>
      rw [hc] at h
      exact (Except.ok.inj h).symm

/-- Whatever a move is given, it assigns at most the numbers among it, each to its axis. -/
theorem Holds.view_move (h : v.Holds past) (dataId : String) (x y : Option Json) :
    ∃ ref x' y', (v.move dataId x y).view = v.listed.place ref x' y' ∧
      (x' = none ∨ x' = x.bind Number.ofJson?) ∧ (y' = none ∨ y' = y.bind Number.ofJson?) := by
  obtain ⟨log, hlog⟩ := h.find dataId
  rw [View.move, hlog]
  cases past.nodes.find? (·.dataId = dataId) with
  | none => exact ⟨.entity ⟨.activity, 0⟩, none, none, rfl, .inl rfl, .inl rfl⟩
  | some ref =>
    cases hx : v.listed.assignGiven ref .x x with
    | error e =>
      simp only [hx]
      exact ⟨ref, none, none, rfl, .inl rfl, .inl rfl⟩
    | ok u =>
      obtain rfl := eq_assign?_of_assignGiven hx
      cases hy : (v.listed.assign? ref .x (x.bind Number.ofJson?)).assignGiven ref .y y with
      | error e =>
        simp only [hx, hy]
        exact ⟨ref, _, none, rfl, .inr rfl, .inl rfl⟩
      | ok w =>
        obtain rfl := eq_assign?_of_assignGiven hy
        simp only [hx, hy]
        exact ⟨ref, _, _, rfl, .inr rfl, .inr rfl⟩

/-- A move by data id assigns the numbers given to the node that the id finds. -/
theorem Holds.move_eq (h : v.Holds past) {dataId : String} {ref : NodeRef}
    (hfind : past.nodes.find? (·.dataId = dataId) = some ref) (x y : Option Number) :
    ∃ log, v.move dataId (x.map Number.toJson) (y.map Number.toJson) =
      ⟨v.listed.place ref x y, .ok (.node (some ref)), log⟩ := by
  obtain ⟨log, hlog⟩ := h.find dataId
  refine ⟨log, ?_⟩
  rw [View.move, hlog, hfind]
  simp only [assignGiven_toJson]
  rfl

end View

end TraceGraph
