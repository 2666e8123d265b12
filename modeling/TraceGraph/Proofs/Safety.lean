import TraceGraph.Proofs.Run
import TraceGraph.Session

/-! No read fails. A view refers to nothing that is not in its tables: messages run between announced
things, creators are announced activities, and every announced thing is in the group of its key. Batches
that would break this are refused, and nothing is ever removed but by a reset, which removes all. So it
does not matter by which meta-model the operations were understood, or what replaced an announcement. -/

namespace TraceGraph

open Announcements

/-! ### References -/

/-- Everything in the table is in the group of its key. -/
def Population.Grouped {α : Type} [Traced α] (p : Population α) : Prop :=
  ∀ e ∈ p.table.values, ∃ g, p.groups.get (Traced.key e.item) = .ok g ∧ g.members ≠ []

namespace View

/-- Whether a thing is in the table of its kind; dynamic scopes have none. -/
def Has (v : View) : EntityRef → Prop
  | ⟨.activity, id⟩ => id ∈ v.activities.table.keys
  | ⟨.passiveEntity, id⟩ => id ∈ v.passives.table.keys
  | ⟨.dynamicScope, _⟩ => False

/-- Nothing that a view refers to is missing. -/
structure Intact (v : View) : Prop where
  ends : ∀ e ∈ v.messages.counts.keys, v.Has e.1 ∧ v.Has e.2
  creators : ∀ e ∈ v.activities.table.values, ∀ id, e.item.creator = some id → v.Has ⟨.activity, id⟩
  makers : ∀ e ∈ v.passives.table.values, v.Has ⟨.activity, e.item.creator⟩
  activities : v.activities.Grouped
  passives : v.passives.Grouped

/-- Every read of a view is answered, and so is every look-up that reads are made of. -/
structure Answers (v : View) : Prop where
  listActivities : ∃ w refs log, v.listActivities = .ok (w, refs, log)
  listPassives : ∃ w refs log, v.listPassives = .ok (w, refs, log)
  find : ∀ dataId, ∃ w ref log, v.find dataId = .ok (w, ref, log)
  links : ∃ w ls log, v.links = .ok (w, ls, log)
  visible : ∀ e, v.Has e → ∃ ref, v.visible e = .ok ref
  promoteActivities : ∀ key ∈ v.activities.groups.groups.keys, ∀ n,
    ∃ t log, v.activities.groups.promote key n = .ok (t, log)
  promotePassives : ∀ key ∈ v.passives.groups.groups.keys, ∀ n,
    ∃ t log, v.passives.groups.promote key n = .ok (t, log)

end View

namespace Population

variable {α : Type} [Traced α] {limit : Int} {as : List α} {p : Population α}

theorem Holds.grouped (h : p.Holds limit as) : p.Grouped := by
  intro x hx
  obtain ⟨e, he, rfl⟩ := List.mem_map.1 hx
  obtain ⟨g, hg, hh⟩ := h.get?_of_mem (h.key_mem he)
  refine ⟨g, GroupTable.get_of_get? hg, ?_⟩
  intro hnone
  obtain ⟨a, ha, ht⟩ := h.entry he
  have hkey : Traced.key a = Traced.key e.2.item := congrArg Traits.key ht
  have hsharing : a ∈ sharing as (Traced.key e.2.item) :=
    List.mem_filter.2 ⟨latest?_mem ha, decide_eq_true hkey⟩
  have hmembers := hh.members
  rw [hnone, List.map_nil, eq_comm, List.map_eq_nil_iff] at hmembers
  rw [hmembers] at hsharing
  cases hsharing

/-- Whatever is in the table has a node that stands for it, promoted or not. -/
theorem Holds.visible (h : p.Holds limit as) {id : Int} (hid : id ∈ p.table.keys) :
    ∃ ref, p.visible id = .ok ref := by
  obtain ⟨x, hx⟩ := Table.get?_eq_some_of_mem_keys hid
  have hmem : x ∈ p.table.values := List.mem_map_of_mem ((Table.get?_eq_some_iff _ _ _).1 hx)
  obtain ⟨g, hg, -⟩ := h.grouped x hmem
  simp only [Population.visible, hx, hg, bind, Except.bind, pure, Except.pure]
  exact ⟨_, rfl⟩

theorem Holds.promote (h : p.Holds limit as) {key : String} (hkey : key ∈ p.groups.groups.keys) (n : Int) :
    ∃ t log, p.groups.promote key n = .ok (t, log) := by
  have hkind : p.groups.kind ≠ .dynamicScope := by
    rw [h.kind]
    exact h.drawn
  obtain ⟨g, hg⟩ := Table.get?_eq_some_of_mem_keys hkey
  obtain ⟨log, hlog⟩ := GroupTable.promote_eq hkind hg n
  exact ⟨_, log, hlog⟩

end Population

namespace View

variable {v : View} {past : History}

theorem Holds.has_iff (h : v.Holds past) {e : EntityRef} : v.Has e ↔ past.Knows e := by
  obtain ⟨kind, id⟩ := e
  cases kind with
  | activity => rw [Has, h.activities.ids, History.Knows]
  | passiveEntity => rw [Has, h.passives.ids, History.Knows]
  | dynamicScope => rfl

theorem Holds.intact (h : v.Holds past) : v.Intact where
  ends e he := by
    obtain ⟨n, hn⟩ := Table.get?_eq_some_of_mem_keys he
    rw [h.messages] at hn
    rw [h.has_iff, h.has_iff]
    exact h.closed.knows_of_mem_increments (i := ⟨e.1, e.2, n⟩) (Tally.mem_increments.2 hn)
  creators x hx id hid := by
    obtain ⟨e, he, rfl⟩ := List.mem_map.1 hx
    obtain ⟨a, ha, ht⟩ := h.activities.entry he
    have hcreator : a.creator = e.2.item.creator := congrArg Traits.creator? ht
    rw [h.has_iff]
    exact h.closed.creators a (latest?_mem ha) id (hcreator.trans hid)
  makers x hx := by
    obtain ⟨e, he, rfl⟩ := List.mem_map.1 hx
    obtain ⟨a, ha, ht⟩ := h.passives.entry he
    have hcreator : a.creator = e.2.item.creator := Option.some.inj (congrArg Traits.creator? ht)
    rw [h.has_iff, ← hcreator]
    exact h.closed.makers a (latest?_mem ha)
  activities := h.activities.grouped
  passives := h.passives.grouped

theorem Holds.answers (h : v.Holds past) : v.Answers where
  listActivities := by
    obtain ⟨log, hlog⟩ := h.listActivities
    exact ⟨_, _, log, hlog⟩
  listPassives := by
    obtain ⟨log, hlog⟩ := h.listPassives
    exact ⟨_, _, log, hlog⟩
  find dataId := by
    obtain ⟨log, hlog⟩ := h.find dataId
    exact ⟨_, _, log, hlog⟩
  links := by
    obtain ⟨log, hlog⟩ := h.links
    exact ⟨_, _, log, hlog⟩
  visible e he := by
    obtain ⟨kind, id⟩ := e
    cases kind with
    | activity => exact h.activities.visible he
    | passiveEntity => exact h.passives.visible he
    | dynamicScope => exact he.elim
  promoteActivities _ hkey n := h.activities.promote hkey n
  promotePassives _ hkey n := h.passives.promote hkey n

/-- Every view that a client can reach is intact and answers every read; a session answers with the
counters of such a view. -/
theorem reads_never_fail (m : Option MetaModel) (ops : List Op) :
    (run ops (new m)).Intact ∧ (run ops (new m)).Answers ∧
      ∀ s : Session, s.view = some (run ops (new m)) →
        s.stats.answer = .ok (run ops (new m)).stats := by
  refine ⟨(holds_run m ops).intact, (holds_run m ops).answers, ?_⟩
  intro s hs
  rw [Session.stats, Session.withView, hs]

end View

end TraceGraph
