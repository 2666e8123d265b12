import Mathlib.Algebra.Order.Field.Basic
import Mathlib.Algebra.Order.Ring.Rat
import Mathlib.Data.Nat.Cast.Order.Ring
import TraceGraph.Proofs.Assignment

/-! Coordinates stay within the drawing area. Whatever is assigned is cut off at the limits and so are
the places of new nodes, however far out they would lie. NaN alone passes the limits, since it is neither
below nor above them: a node that NaN was assigned to is nowhere. -/

namespace TraceGraph

open Announcements Traced

/-! ### Values -/

namespace Binary64

theorem den_pos {x : Binary64} {r : Int × Nat} (h : x.ratio? = some r) : 0 < r.2 := by
  cases x with
  | finite negative e f =>
    obtain rfl := Option.some.inj h
    exact Nat.pow_pos (by decide)
  | infinite negative => cases h
  | nan => cases h

/-- The value; none unless the number is finite. -/
def value? (x : Binary64) : Option ℚ := x.ratio?.map fun r => r.1 / r.2

theorem ltInt_iff {x : Binary64} {q : ℚ} (h : x.value? = some q) (k : Int) : x.ltInt k = true ↔ q < k := by
  obtain ⟨r, hr, rfl⟩ := Option.map_eq_some_iff.1 h
  have hcross : x.ltInt k = decide (r.1 < k * r.2) := by
    cases x <;> cases hr
    rfl
  rw [hcross, decide_eq_true_iff, div_lt_iff₀ (by exact_mod_cast den_pos hr)]
  norm_cast

theorem gtInt_iff {x : Binary64} {q : ℚ} (h : x.value? = some q) (k : Int) : x.gtInt k = true ↔ k < q := by
  obtain ⟨r, hr, rfl⟩ := Option.map_eq_some_iff.1 h
  have hcross : x.gtInt k = decide (k * r.2 < r.1) := by
    cases x <;> cases hr
    rfl
  rw [hcross, decide_eq_true_iff, lt_div_iff₀ (by exact_mod_cast den_pos hr)]
  norm_cast

end Binary64

namespace Number

/-- The value of a finite number. -/
def value? : Number → Option ℚ
  | whole n => some n
  | real x => x.value?
  | flag b => some ((if b then 1 else 0 : Int) : ℚ)

theorem ltInt_iff {c : Number} {q : ℚ} (h : c.value? = some q) (k : Int) : c.ltInt k = true ↔ q < k := by
  cases c with
  | whole n =>
    obtain rfl := Option.some.inj h
    rw [ltInt, decide_eq_true_iff, Int.cast_lt]
  | real x => exact Binary64.ltInt_iff h k
  | flag b =>
    obtain rfl := Option.some.inj h
    rw [ltInt, decide_eq_true_iff, Int.cast_lt]

theorem gtInt_iff {c : Number} {q : ℚ} (h : c.value? = some q) (k : Int) : c.gtInt k = true ↔ k < q := by
  cases c with
  | whole n =>
    obtain rfl := Option.some.inj h
    rw [gtInt, decide_eq_true_iff, Int.cast_lt]
  | real x => exact Binary64.gtInt_iff h k
  | flag b =>
    obtain rfl := Option.some.inj h
    rw [gtInt, decide_eq_true_iff, Int.cast_lt]

/-! ### Within the limits -/

/-- A finite number between the limits of the drawing area. -/
def InRange (c : Number) : Prop :=
  ∃ q, c.value? = some q ∧ ((-coordinateLimit : Int) : ℚ) ≤ q ∧ q ≤ coordinateLimit

theorem inRange_whole {n : Int} (hlow : -coordinateLimit ≤ n) (hhigh : n ≤ coordinateLimit) :
    (whole n).InRange :=
  ⟨n, rfl, Int.cast_le.2 hlow, Int.cast_le.2 hhigh⟩

theorem not_inRange_nan : ¬ (real .nan).InRange := by
  rintro ⟨q, hq, -⟩
  cases hq

theorem clamp_of_inRange {c : Number} (h : c.InRange) : c.clamp = c := by
  obtain ⟨q, hq, hlow, hhigh⟩ := h
  rw [clamp, if_neg (by rwa [gtInt_iff hq, not_lt]), if_neg (by rwa [ltInt_iff hq, not_lt])]

theorem inRange_clamp {c : Number} (h : c ≠ real .nan) : c.clamp.InRange := by
  unfold clamp
  split
  · exact inRange_whole (by decide) (by decide)
  · next hgt =>
    split
    · exact inRange_whole (by decide) (by decide)
    · next hlt =>
      -- neither above nor below a limit: the infinite numbers are one of both
      have hfinite : ∃ q, c.value? = some q := by
        cases c with
        | whole n => exact ⟨_, rfl⟩
        | flag b => exact ⟨_, rfl⟩
        | real x =>
          cases x with
          | finite negative e f => exact ⟨_, rfl⟩
          | infinite negative =>
            cases negative with
            | false => exact absurd rfl hgt
            | true => exact absurd rfl hlt
          | nan => exact absurd rfl h
      obtain ⟨q, hq⟩ := hfinite
      rw [gtInt_iff hq, not_lt] at hgt
      rw [ltInt_iff hq, not_lt] at hlt
      exact ⟨q, hq, hlt, hgt⟩

example : (real (.infinite true)).clamp = whole (-5000) := by decide

theorem inRange_or_nan_clamp (c : Number) : c.clamp.InRange ∨ c.clamp = real .nan := by
  by_cases h : c = real .nan
  · exact .inr (by rw [h]; rfl)
  · exact .inl (inRange_clamp h)

end Number

/-! ### All places -/

/-- Both coordinates are as asked. -/
structure Position.All (P : Number → Prop) (p : Position) : Prop where
  x : P p.x
  y : P p.y

/-- The node of a group, if it has one, stands at coordinates as asked. -/
def Group.All {α : Type} (P : Number → Prop) (g : Group α) : Prop := ∀ place ∈ g.place, place.All P

/-- Every node of a population, shown or not, stands at coordinates as asked. -/
structure Population.All {α : Type} (P : Number → Prop) (p : Population α) : Prop where
  own : ∀ id e, p.table.get? id = some e → e.position.All P
  groups : ∀ key g, p.groups.get? key = some g → g.All P

structure View.All (P : Number → Prop) (v : View) : Prop where
  activities : v.activities.All P
  passives : v.passives.All P

variable {α : Type} {P : Number → Prop}

namespace Position

theorem All.set {p : Position} (h : p.All P) (axis : Axis) {c : Number} (hc : P c.clamp) :
    (p.set axis c).All P := by
  cases axis with
  | x => exact ⟨hc, h.y⟩
  | y => exact ⟨h.x, hc⟩

theorem all_seed (hseed : ∀ n, P (Number.whole n).clamp) (population groups : Int) :
    (seed population groups).All P :=
  ⟨hseed _, hseed _⟩

end Position

namespace Group

theorem All.set {g : Group α} (h : g.All P) (axis : Axis) {c : Number} (hc : P c.clamp) :
    (g.set axis c).All P := by
  intro place hplace
  obtain ⟨old, hold, rfl⟩ := Option.map_eq_some_iff.1 hplace
  exact (h old hold).set axis hc

theorem All.promote {g : Group α} (h : g.All P) (hseed : ∀ n, P (Number.whole n).clamp) (n : Int) :
    (g.promote n).All P := by
  unfold Group.promote
  split
  · exact h
  · intro place hplace
    obtain rfl := Option.some.inj hplace
    exact Position.all_seed hseed _ _

end Group

namespace Population

variable {p q : Population α}

theorem all_empty [Traced α] (threshold : Int) : (empty threshold : Population α).All P where
  own _ _ h := by cases h
  groups _ _ h := by cases h

theorem All.map (h : p.All P) {f : Int → Placed α → Placed α} {g : String → Group α → Group α}
    (hf : ∀ id e, e.position.All P → (f id e).position.All P)
    (hg : ∀ key x, x.All P → (g key x).All P) :
    All P ⟨p.table.mapValues f, p.groups.mapGroups g⟩ where
  own id e he := by
    rw [Table.get?_mapValues] at he
    obtain ⟨e', he', rfl⟩ := Option.map_eq_some_iff.1 he
    exact hf id e' (h.own id e' he')
  groups key x hx := by
    rw [GroupTable.get?_mapGroups] at hx
    obtain ⟨x', hx', rfl⟩ := Option.map_eq_some_iff.1 hx
    exact hg key x' (h.groups key x' hx')

theorem All.mapGroups (h : p.All P) {g : String → Group α → Group α}
    (hg : ∀ key x, x.All P → (g key x).All P) : All P { p with groups := p.groups.mapGroups g } where
  own := h.own
  groups := by
    have hm := h.map (f := fun _ e => e) (fun _ _ he => he) hg
    exact hm.groups

variable [Traced α]

theorem All.announce (h : p.All P) (hseed : ∀ n, P (Number.whole n).clamp) (a : α) :
    (p.announce a).All P where
  own id e he := by
    rw [Population.announce, Table.get?_set] at he
    split at he
    · obtain rfl := Option.some.inj he
      exact Position.all_seed hseed _ _
    · exact h.own id e he
  groups key g hg := by
    rw [Population.announce, GroupTable.get?, GroupTable.add, Table.get?_set] at hg
    split at hg
    · obtain rfl := Option.some.inj hg
      -- a further member leaves the place of the group's node, and a new group has no node
      unfold GroupTable.grown
      cases hold : p.groups.get? (Traced.key a) with
      | none =>
        intro place hplace
        cases hplace
      | some old => exact h.groups _ old hold
    · exact h.groups key g hg

theorem All.announceAll (h : p.All P) (hseed : ∀ n, P (Number.whole n).clamp) (as : List α) :
    (announceAll as p).All P := by
  induction as generalizing p with
  | nil => exact h
  | cons a as ih => exact ih (h.announce hseed a)

omit [Traced α] in
theorem All.settled (h : p.All P) (hseed : ∀ n, P (Number.whole n).clamp) : p.settled.All P := by
  apply h.mapGroups
  intro key x hx
  split
  · exact hx.promote hseed _
  · exact hx

theorem All.listed (h : p.All P) (hseed : ∀ n, P (Number.whole n).clamp) : p.listed.All P := by
  apply h.mapGroups
  intro key x hx
  split
  · exact hx.promote hseed _
  · exact hx

omit [Traced α] in
theorem All.assignOwn (h : p.All P) (id : Int) (axis : Axis) {c : Number} (hc : P c.clamp) :
    (p.assignOwn id axis c).All P where
  own j e he := by
    rw [Population.assignOwn, Table.get?_modify] at he
    obtain ⟨e', he', rfl⟩ := Option.map_eq_some_iff.1 he
    split
    · exact (h.own j e' he').set axis hc
    · exact h.own j e' he'
  groups := h.groups

omit [Traced α] in
theorem All.assignGroup (h : p.All P) (id : Nat) (axis : Axis) {c : Number} (hc : P c.clamp) :
    (p.assignGroup id axis c).All P := by
  unfold Population.assignGroup
  split
  · rw [GroupTable.modify_eq_mapGroups]
    apply h.mapGroups
    intro key x hx
    split
    · exact hx.set axis hc
    · exact hx
  · exact h

theorem All.flagged {p q : Population Activity} (h : p.All P) (hq : Flagged p q) : q.All P := by
  obtain ⟨f, g, rfl, hf, hg⟩ := hq
  apply h.map
  · intro id e he
    rwa [(hf id e).2]
  · intro key x hx
    rwa [Group.All, (hg key x).2.2]

theorem All.position_of_node? (h : p.All P) {ref : NodeRef} {n : Node α} (hn : p.node? ref = some n) :
    n.position.All P := by
  unfold node? at hn
  split at hn <;> split at hn
  · obtain ⟨e, he, rfl⟩ := Option.map_eq_some_iff.1 hn
    exact h.own _ e he
  · cases hn
  · obtain ⟨g, hg, hnode⟩ := Option.bind_eq_some_iff.1 hn
    obtain ⟨place, hplace, rfl⟩ := Option.map_eq_some_iff.1 hnode
    obtain ⟨x, hx, rfl⟩ := List.mem_map.1 (List.mem_of_find?_eq_some hg)
    exact h.groups x.1 x.2 (Table.get?_of_mem hx) place hplace
  · cases hn

end Population

/-! ### Runs -/

namespace View

variable {v : View} {past : History}

/-- The numbers that an operation assigns, if it finds a node. -/
def Op.assigned : Op → List Number
  | .move _ x y => (x.toList ++ y.toList).filterMap Number.ofJson?
  | _ => []

theorem All.position_of_node? (h : v.All P) {ref : NodeRef} {n : AnyNode} (hn : v.node? ref = some n) :
    n.position.All P := by
  rw [node?_eq_or, Option.or_eq_some_iff, Option.map_eq_some_iff, Option.map_eq_some_iff] at hn
  rcases hn with ⟨x, hx, rfl⟩ | ⟨-, x, hx, rfl⟩
  · exact h.activities.position_of_node? hx
  · exact h.passives.position_of_node? hx

theorem All.listed (h : v.All P) (hseed : ∀ n, P (Number.whole n).clamp) : v.listed.All P :=
  ⟨h.activities.listed hseed, h.passives.listed hseed⟩

theorem All.assign (h : v.All P) (ref : NodeRef) (axis : Axis) {c : Number} (hc : P c.clamp) :
    (v.assign ref axis c).All P := by
  unfold View.assign
  split
  · exact ⟨h.activities.assignOwn _ axis hc, h.passives⟩
  · exact ⟨h.activities, h.passives.assignOwn _ axis hc⟩
  · exact ⟨h.activities.assignGroup _ axis hc, h.passives⟩
  · exact ⟨h.activities, h.passives.assignGroup _ axis hc⟩
  · exact h

theorem All.place (h : v.All P) (ref : NodeRef) {x y : Option Number} (hx : ∀ c ∈ x, P c.clamp)
    (hy : ∀ c ∈ y, P c.clamp) : (v.place ref x y).All P := by
  have hassign : ∀ {u : View} (axis : Axis) {c : Option Number}, u.All P → (∀ k ∈ c, P k.clamp) →
      (u.assign? ref axis c).All P := by
    intro u axis c hu hc
    cases c with
    | none => exact hu
    | some k => exact hu.assign ref axis (hc k rfl)
  exact hassign .y (hassign .x h hx) hy

theorem All.setRunning (h : v.All P) (ref : NodeRef) (ids : List Int) (running : Bool) :
    (v.setRunning ref ids running).All P := by
  unfold View.setRunning
  split
  · split
    · exact ⟨h.activities.flagged (Population.flagged_setOwnRunning _ _ running), h.passives⟩
    · exact h
  · exact ⟨h.activities.flagged (Population.flagged_setGroupRunning _ _ ids running), h.passives⟩
  · exact h

theorem All.absorb (h : v.All P) (hseed : ∀ n, P (Number.whole n).clamp) (b : Batch) :
    (v.absorb b).view.All P := by
  obtain hview | ⟨m, hview⟩ := v.absorb_view b
  · rwa [hview]
  · rw [hview]
    constructor
    · rw [taken, foldl_countMessage_activities]
      exact h.activities.announceAll hseed b.activities
    · rw [taken, foldl_countMessage_passives]
      exact h.passives.announceAll hseed b.passiveEntities

theorem All.move (h : v.All P) (hv : v.Holds past) (hseed : ∀ n, P (Number.whole n).clamp)
    {dataId : String} {x y : Option Json}
    (hgiven : ∀ c ∈ (Op.move dataId x y).assigned, P c.clamp) : (v.move dataId x y).view.All P := by
  have hbind : ∀ {given : Option Json}, given.toList ⊆ x.toList ++ y.toList →
      ∀ c ∈ given.bind Number.ofJson?, P c.clamp := by
    intro given hsub c hc
    obtain ⟨value, rfl, hvalue⟩ := Option.bind_eq_some_iff.1 hc
    exact hgiven c (List.mem_filterMap.2 ⟨value, hsub (by simp), hvalue⟩)
  obtain ⟨ref, x', y', hview, hx, hy⟩ := hv.view_move dataId x y
  rw [hview]
  apply (h.listed hseed).place ref
  · rcases hx with rfl | rfl
    · exact nofun
    · exact hbind (List.subset_append_left _ _)
  · rcases hy with rfl | rfl
    · exact nofun
    · exact hbind (List.subset_append_right _ _)

/-- Coordinates come from seeds and assignments only, and both are cut off. -/
theorem All.step (h : v.All P) (hv : v.Holds past) (hseed : ∀ n, P (Number.whole n).clamp) {op : Op}
    (hop : ∀ c ∈ op.assigned, P c.clamp) : (op.run v).view.All P := by
  rw [hv.view_run op]
  cases op with
  | ingest b => exact h.absorb hseed b
  | setMetaModel m => exact ⟨h.activities, h.passives⟩
  | reset => exact ⟨Population.all_empty _, Population.all_empty _⟩
  | listActivities => exact ⟨h.activities.listed hseed, h.passives⟩
  | listPassives => exact ⟨h.activities, h.passives.listed hseed⟩
  | links => exact ⟨h.activities.settled hseed, h.passives.settled hseed⟩
  | find dataId => exact h.listed hseed
  | move dataId x y => exact h.move hv hseed hop
  | setRunning dataId ids running =>
    rw [Op.effect]
    cases past.nodes.find? (·.dataId = dataId) with
    | none => exact h.listed hseed
    | some ref => exact (h.listed hseed).setRunning ref ids running
  | visible e => exact h

theorem All.run (h : v.All P) (hv : v.Holds past) (hseed : ∀ n, P (Number.whole n).clamp) {ops : List Op}
    (hops : ∀ c ∈ ops.flatMap Op.assigned, P c.clamp) : (run ops v).All P := by
  induction ops generalizing v past with
  | nil => exact h
  | cons op ops ih =>
    rw [List.flatMap_cons] at hops
    exact ih (h.step hv hseed fun c hc => hops c (List.mem_append_left _ hc)) (hv.step op)
      fun c hc => hops c (List.mem_append_right _ hc)

theorem all_run (m : Option MetaModel) (hseed : ∀ n, P (Number.whole n).clamp) {ops : List Op}
    (hops : ∀ c ∈ ops.flatMap Op.assigned, P c.clamp) : (run ops (new m)).All P :=
  All.run ⟨Population.all_empty _, Population.all_empty _⟩ (holds_new m) hseed hops

/-- Every coordinate of every node lies within the limits or is NaN, and is not NaN as long as NaN was
never given in a move; a number within the limits is read back as it was assigned. -/
theorem coordinates_in_range (m : Option MetaModel) (ops : List Op) :
    (∀ ref n, (run ops (new m)).node? ref = some n →
      n.position.All fun c => c.InRange ∨ c = .real .nan) ∧
    (.real .nan ∉ ops.flatMap Op.assigned →
      ∀ ref n, (run ops (new m)).node? ref = some n → n.position.All Number.InRange) ∧
    ∀ dataId w ref log, (run ops (new m)).find dataId = .ok (w, some ref, log) →
      ∀ x y : Option Number, ∃ u n log,
        (run ops (new m)).move dataId (x.map Number.toJson) (y.map Number.toJson) =
          ⟨u, .ok (.node (some ref)), log⟩ ∧
        u.node? ref = some n ∧
        (∀ c ∈ x, c.InRange → n.position.x = c) ∧ ∀ c ∈ y, c.InRange → n.position.y = c := by
  refine ⟨fun ref n hn => ?_, fun hnan ref n hn => ?_, ?_⟩
  · have hall : (run ops (new m)).All fun c => c.InRange ∨ c = .real .nan :=
      all_run m (fun n => Number.inRange_or_nan_clamp _) fun c _ => Number.inRange_or_nan_clamp c
    exact hall.position_of_node? hn
  · have hall : (run ops (new m)).All Number.InRange :=
      all_run m (fun n => Number.inRange_clamp nofun)
        fun c hc => Number.inRange_clamp (ne_of_mem_of_not_mem hc hnan)
    exact hall.position_of_node? hn
  · intro dataId w ref log hfind x y
    have h := holds_run m ops
    generalize run ops (new m) = v at h hfind ⊢
    obtain ⟨log', hlog'⟩ := h.find dataId
    rw [hfind, Except.ok.injEq, Prod.mk.injEq, Prod.mk.injEq] at hlog'
    obtain ⟨rfl, href, -⟩ := hlog'
    obtain ⟨more, hmove⟩ := h.move_eq href.symm x y
    obtain ⟨s, hs⟩ := h.summary_settled (List.mem_of_find?_eq_some href.symm)
    obtain ⟨n, hn, -⟩ := summary_eq_ok_iff.1 hs
    refine ⟨_, n.place x y, more, hmove, ?_, ?_, ?_⟩
    · rw [node?_place, if_pos rfl, h.node?_listed (List.mem_of_find?_eq_some href.symm), hn,
        Option.map_some]
    · rintro c rfl hc
      rw [AnyNode.position_place, Option.map_some, Option.getD_some, Number.clamp_of_inRange hc]
    · rintro c rfl hc
      rw [AnyNode.position_place, Option.map_some, Option.getD_some, Number.clamp_of_inRange hc]

/-- The root activity is put at NaN. -/
def nanRun : List Op :=
  [.ingest ⟨[⟨1, "main", 0, none, true⟩], [], [], []⟩, .move "e1" (some (.float .nan)) none]

/-- NaN is assigned as it is. -/
theorem nan_out_of_range :
    ∃ n, (run nanRun (new (some ⟨Table.empty, Table.empty⟩))).node? (.entity ⟨.activity, 1⟩) = some n ∧
      n.position.x = .real .nan ∧ ¬ n.position.x.InRange := by
  have hx : (((run nanRun (new (some ⟨Table.empty, Table.empty⟩))).node? (.entity ⟨.activity, 1⟩)).map
      fun n => n.position.x) = some (.real .nan) := by decide +kernel
  obtain ⟨n, hn, hnx⟩ := Option.map_eq_some_iff.1 hx
  exact ⟨n, hn, hnx, by rw [hnx]; exact Number.not_inRange_nan⟩

end View

end TraceGraph
