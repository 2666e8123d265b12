import TraceGraph.Proofs.Assignment

/-! Groups continue through a run. A group keeps its number and its members, further ones come behind
them, and once it has a node, the node stands where it stood but for the coordinates that were assigned to
it in between. Nothing but a reset takes anything away. -/

namespace TraceGraph

open Announcements Traced

/-- Coordinates that are assigned to a node, one after the other. -/
abbrev Assignments := List (NodeRef × Axis × Number)

/-- The coordinates that are assigned to one node. -/
def Assignments.to (as : Assignments) (ref : NodeRef) : List (Axis × Number) :=
  (as.filter (·.1 = ref)).map Prod.snd

theorem Assignments.to_append (as bs : Assignments) (ref : NodeRef) :
    Assignments.to (as ++ bs) ref = as.to ref ++ bs.to ref := by
  rw [Assignments.to, List.filter_append, List.map_append]
  rfl

theorem Assignments.to_self (ref : NodeRef) (m : Axis × Number) : Assignments.to [(ref, m)] ref = [m] := by
  simp [Assignments.to]

theorem Assignments.to_of_ne {ref ref' : NodeRef} (h : ref ≠ ref') (m : Axis × Number) :
    Assignments.to [(ref, m)] ref' = [] := by
  simp [Assignments.to, h]

theorem Assignments.to_map (moves : List (Axis × Number)) (ref ref' : NodeRef) :
    Assignments.to (moves.map fun m => (ref, m)) ref' = if ref = ref' then moves else [] := by
  have hvalues : Prod.snd ∘ (fun m : Axis × Number => (ref, m)) = id := rfl
  rw [Assignments.to, List.filter_map, List.map_map, hvalues, List.map_id]
  by_cases href : ref = ref' <;> simp [href, Function.comp_def]

/-- The position after coordinates were assigned one after the other. -/
def Position.setAll (moves : List (Axis × Number)) (p : Position) : Position :=
  moves.foldl (fun p m => p.set m.1 m.2) p

theorem Position.setAll_append (moves more : List (Axis × Number)) (p : Position) :
    p.setAll (moves ++ more) = (p.setAll moves).setAll more := List.foldl_append

/-! ### Groups -/

/-- The same group later: more members may have come, and its node may have got its place or been moved. -/
structure Group.Continues {α : Type} [Traced α] (g g' : Group α) (moves : List (Axis × Number)) : Prop where
  id : g'.id = g.id
  members : g.members.map traits <+: g'.members.map traits
  place : ∀ p, g.place = some p → g'.place = some (p.setAll moves)

namespace Group.Continues

variable {α : Type} [Traced α] {g g' g'' : Group α} {moves more : List (Axis × Number)}

theorem refl (g : Group α) : g.Continues g [] := ⟨rfl, List.prefix_rfl, fun _ h => h⟩

theorem trans (h : g.Continues g' moves) (h' : g'.Continues g'' more) :
    g.Continues g'' (moves ++ more) where
  id := h'.id.trans h.id
  members := h.members.trans h'.members
  place p hp := by
    rw [h'.place _ (h.place p hp), Position.setAll_append]

theorem size_le (h : g.Continues g' moves) : g.size ≤ g'.size := by
  have hlength := h.members.length_le
  rwa [List.length_map, List.length_map] at hlength

theorem add (g : Group α) (a : α) : g.Continues (g.add a) [] where
  id := rfl
  members := by
    rw [Group.add, List.map_append]
    exact List.prefix_append _ _
  place _ h := h

theorem promote (g : Group α) (n : Int) : g.Continues (g.promote n) [] where
  id := promote_id g n
  members := by simp only [promote_members, List.prefix_rfl]
  place p hp := by
    have hself := promote_of_isPromoted (Option.isSome_iff_exists.2 ⟨p, hp⟩) n
    exact (congrArg Group.place hself).trans hp

theorem set (g : Group α) (axis : Axis) (c : Number) : g.Continues (g.set axis c) [(axis, c)] where
  id := rfl
  members := List.prefix_rfl
  place p hp := by
    rw [Group.set, hp]
    rfl

end Group.Continues

/-! ### Populations -/

namespace Population

variable {α : Type} [Traced α] {limit : Int} {as : List α} {p p' p'' : Population α}
  {moves more : Assignments}

/-- Every group continues under its key, with the coordinates assigned to its own node. -/
def Continues (p p' : Population α) (moves : Assignments) : Prop :=
  ∀ key g, p.groups.get? key = some g →
    ∃ g', p'.groups.get? key = some g' ∧ g.Continues g' (moves.to (groupRef g))

namespace Continues

theorem refl (p : Population α) : p.Continues p [] := fun _ g hg => ⟨g, hg, .refl g⟩

theorem trans (h : p.Continues p' moves) (h' : p'.Continues p'' more) :
    p.Continues p'' (moves ++ more) := by
  intro key g hg
  obtain ⟨g', hg', hc⟩ := h key g hg
  obtain ⟨g'', hg'', hc'⟩ := h' key g' hg'
  have href : groupRef g' = groupRef g := by rw [groupRef, groupRef, hc.id]
  rw [href] at hc'
  refine ⟨g'', hg'', ?_⟩
  rw [Assignments.to_append]
  exact hc.trans hc'

theorem mapGroups {f : String → Group α → Group α}
    (h : ∀ key g, p.groups.get? key = some g → g.Continues (f key g) (moves.to (groupRef g)))
    (hp : p'.groups = p.groups.mapGroups f) : p.Continues p' moves := by
  intro key g hg
  refine ⟨f key g, ?_, h key g hg⟩
  rw [hp, GroupTable.get?_mapGroups, hg, Option.map_some]

/-- An assignment to a node of another sort leaves the groups alone. -/
theorem assignOther {ref : NodeRef} (h : ∀ n, ref ≠ .group (Traced.kind α) n)
    (hp : p'.groups = p.groups) (m : Axis × Number) : p.Continues p' [(ref, m)] := by
  intro key g hg
  rw [hp, groupRef, Assignments.to_of_ne (h g.id)]
  exact ⟨g, hg, .refl g⟩

theorem announce (p : Population α) (a : α) : p.Continues (p.announce a) [] := by
  intro key g hg
  rw [Population.announce, GroupTable.get?, GroupTable.add, Table.get?_set]
  split
  · next hkey =>
    rw [hkey] at hg
    rw [GroupTable.grown, hg, Option.getD_some]
    exact ⟨_, rfl, .add g a⟩
  · exact ⟨g, hg, .refl g⟩

theorem announceAll (p : Population α) (bs : List α) : p.Continues (announceAll bs p) [] := by
  induction bs generalizing p with
  | nil => exact .refl p
  | cons b bs ih => exact (announce p b).trans (ih (p.announce b))

theorem listed (p : Population α) : p.Continues p.listed [] := by
  refine mapGroups (fun key g _ => ?_) rfl
  split
  · exact .promote g _
  · exact .refl g

theorem settled (p : Population α) : p.Continues p.settled [] := by
  refine mapGroups (fun key g _ => ?_) rfl
  split
  · exact .promote g _
  · exact .refl g

theorem flagged {p q : Population Activity} (h : Flagged p q) : p.Continues q [] := by
  obtain ⟨f, g, rfl, -, hg⟩ := h
  refine mapGroups (fun key x _ => ?_) rfl
  obtain ⟨hid, hmembers, hplace⟩ := hg key x
  exact ⟨hid, by simp only [hmembers, List.prefix_rfl], fun pos hpos => hplace.trans hpos⟩

end Continues

/-- Only the group whose node is assigned a coordinate is moved. -/
theorem Holds.continues_assignGroup (h : p.Holds limit as) (id : Nat) (axis : Axis) (c : Number) :
    p.Continues (p.assignGroup id axis c) [(.group (Traced.kind α) id, axis, c)] := by
  unfold Population.assignGroup
  cases he : p.groups.groups.entries.find? (·.2.id = id) with
  | none =>
    intro key g hg
    rw [List.find?_eq_none] at he
    have hid : g.id ≠ id := by simpa using he (key, g) ((Table.get?_eq_some_iff _ _ _).1 hg)
    rw [groupRef, Assignments.to_of_ne fun href => hid (NodeRef.group.inj href).2.symm]
    exact ⟨g, hg, .refl g⟩
  | some e =>
    refine .mapGroups (fun key g hg => ?_) (GroupTable.modify_eq_mapGroups _ _ _)
    have hid : e.2.id = id := by simpa using List.find?_some he
    have hget : p.groups.get? e.1 = some e.2 := Table.get?_of_mem (List.mem_of_find?_eq_some he)
    split
    · next hkey =>
      subst hkey
      obtain rfl := Option.some.inj (hg.symm.trans hget)
      rw [groupRef, hid, Assignments.to_self]
      exact .set e.2 axis c
    · next hkey =>
      have hne : g.id ≠ id := by
        rw [← hid, (h.group_number hg).1, (h.group_number hget).1]
        exact fun hnumber => hkey (number_inj (h.mem_keys_of_get? hg) hnumber)
      rw [groupRef, Assignments.to_of_ne fun href => hne (NodeRef.group.inj href).2.symm]
      exact .refl g

end Population

/-! ### Views -/

namespace View

variable {v w u : View} {past : History} {moves more : Assignments}

/-- Every group of either kind continues. -/
structure Continues (v w : View) (moves : Assignments) : Prop where
  activities : v.activities.Continues w.activities moves
  passives : v.passives.Continues w.passives moves

theorem Continues.refl (v : View) : v.Continues v [] := ⟨.refl _, .refl _⟩

theorem Continues.trans (h : v.Continues w moves) (h' : w.Continues u more) :
    v.Continues u (moves ++ more) :=
  ⟨h.activities.trans h'.activities, h.passives.trans h'.passives⟩

theorem continues_listed (v : View) : v.Continues v.listed [] := ⟨.listed _, .listed _⟩

theorem continues_absorb (v : View) (b : Batch) : v.Continues (v.absorb b).view [] := by
  obtain hview | ⟨m, hview⟩ := v.absorb_view b
  · rw [hview]
    exact .refl v
  · rw [hview, taken]
    constructor
    · rw [foldl_countMessage_activities]
      exact .announceAll v.activities b.activities
    · rw [foldl_countMessage_passives]
      exact .announceAll v.passives b.passiveEntities

theorem Holds.continues_assign (h : v.Holds past) (ref : NodeRef) (axis : Axis) (c : Number) :
    v.Continues (v.assign ref axis c) [(ref, axis, c)] := by
  rcases ref with ⟨kind, id⟩ | ⟨kind, n⟩
  · cases kind <;> exact ⟨.assignOther (by simp) rfl _, .assignOther (by simp) rfl _⟩
  · cases kind with
    | activity =>
      exact ⟨h.activities.continues_assignGroup n axis c, .assignOther (by simp [Traced.kind]) rfl _⟩
    | passiveEntity =>
      exact ⟨.assignOther (by simp [Traced.kind]) rfl _, h.passives.continues_assignGroup n axis c⟩
    | dynamicScope =>
      exact ⟨.assignOther (by simp [Traced.kind]) rfl _, .assignOther (by simp [Traced.kind]) rfl _⟩

theorem continues_setRunning (v : View) (ref : NodeRef) (ids : List Int) (running : Bool) :
    v.Continues (v.setRunning ref ids running) [] := by
  unfold View.setRunning
  split
  · split
    · exact ⟨.flagged (Population.flagged_setOwnRunning _ _ running), .refl _⟩
    · exact .refl v
  · exact ⟨.flagged (Population.flagged_setGroupRunning _ _ ids running), .refl _⟩
  · exact .refl v

/-! ### Moves -/

/-- The coordinates of a move that are assigned: those given, up to the first that is no number. -/
def coordinates (x y : Option Json) : List (Axis × Number) :=
  let ys := (y.bind Number.ofJson?).toList.map fun c => (Axis.y, c)
  match x with
  | none => ys
  | some given => (Number.ofJson? given).elim [] fun c => (Axis.x, c) :: ys

/-- The view after assignments one after the other. -/
def assignAll (moves : Assignments) (v : View) : View :=
  moves.foldl (fun v m => v.assign m.1 m.2.1 m.2.2) v

theorem Holds.continues_assignAll (h : v.Holds past) (moves : Assignments) :
    v.Continues (v.assignAll moves) moves := by
  induction moves generalizing v with
  | nil => exact .refl v
  | cons m moves ih =>
    exact (h.continues_assign m.1 m.2.1 m.2.2).trans (ih (h.assign m.1 m.2.1 m.2.2))

/-- The coordinates that an operation assigns, each with the node that it is assigned to. -/
def Op.assignments (v : View) : Op → Assignments
  | .move dataId x y =>
    match v.find dataId with
    | .ok (_, some ref, _) => (coordinates x y).map fun m => (ref, m)
    | _ => []
  | _ => []

/-- A move assigns its coordinates after both listings, and does nothing else. -/
theorem Holds.view_move_eq (h : v.Holds past) (dataId : String) (x y : Option Json) :
    (v.move dataId x y).view = v.listed.assignAll (Op.assignments v (.move dataId x y)) := by
  obtain ⟨log, hlog⟩ := h.find dataId
  rw [View.move, Op.assignments, hlog]
  cases past.nodes.find? (·.dataId = dataId) with
  | none => rfl
  | some ref =>
    have hgiven (w : View) (axis : Axis) (value : Json) : w.assignGiven ref axis (some value) =
        (Number.ofJson? value).elim (.error (.incomparable value)) fun c => .ok (w.assign ref axis c) := by
      rw [View.assignGiven, Fault.comparable]
      cases Number.ofJson? value <;> rfl
    have hnone (w : View) (axis : Axis) : w.assignGiven ref axis none = .ok w := rfl
    cases x with
    | none =>
      cases y with
      | none => rfl
      | some y =>
        simp only [hnone, hgiven, coordinates, Option.bind_some]
        cases Number.ofJson? y <;> rfl
    | some x =>
      simp only [hgiven, coordinates]
      cases Number.ofJson? x with
      | none => rfl
      | some a =>
        cases y with
        | none => rfl
        | some y =>
          simp only [Option.elim_some, hgiven, Option.bind_some]
          cases Number.ofJson? y <;> rfl

/-! ### Runs -/

/-- The coordinates that a run assigns. -/
def assignmentsIn : List Op → View → Assignments
  | [], _ => []
  | op :: ops, v => op.assignments v ++ assignmentsIn ops (op.run v).view

/-- Through any operation but a reset, groups continue. -/
theorem Holds.continues_step (h : v.Holds past) {op : Op} (hop : op ≠ .reset) :
    v.Continues (op.run v).view (op.assignments v) := by
  rw [h.view_run op]
  cases op with
  | ingest b => exact v.continues_absorb b
  | setMetaModel m => exact ⟨.refl _, .refl _⟩
  | reset => exact absurd rfl hop
  | listActivities => exact ⟨.listed _, .refl _⟩
  | listPassives => exact ⟨.refl _, .listed _⟩
  | links => exact ⟨.settled _, .settled _⟩
  | find dataId => exact v.continues_listed
  | move dataId x y =>
    rw [Op.effect, h.view_move_eq]
    exact v.continues_listed.trans (h.listed.continues_assignAll _)
  | setRunning dataId ids running =>
    rw [Op.effect]
    cases past.nodes.find? (·.dataId = dataId) with
    | none => exact v.continues_listed
    | some ref => exact v.continues_listed.trans (v.listed.continues_setRunning ref ids running)
  | visible e => exact .refl v

theorem Holds.continues_run (h : v.Holds past) {ops : List Op} (hops : ∀ op ∈ ops, op ≠ .reset) :
    v.Continues (View.run ops v) (assignmentsIn ops v) := by
  induction ops generalizing v past with
  | nil => exact .refl v
  | cons op ops ih =>
    have hstep := h.continues_step (hops op (by simp))
    exact hstep.trans (ih (h.step op) fun o ho => hops o (by simp [ho]))

end View

end TraceGraph
