import TraceGraph.Proofs.History

/-! What a view answers. Its listings, the node that a data id finds and its links are those of its
history, whatever was read or moved before. No read of a view with a history fails. -/

namespace TraceGraph

open Announcements Sequence

namespace Announcements

variable {α : Type} [Traced α]

/-- Each thing that has a creator, after its creator, by the last announcement of its id. -/
def creations (as : List α) : List (EntityRef × EntityRef) :=
  (ids as).filterMap fun id => (latest? as id).bind fun a =>
    (Traced.creator? a).map fun creator => (⟨.activity, creator⟩, ⟨Traced.kind α, id⟩)

theorem mem_creations {as : List α} {e : EntityRef × EntityRef} (he : e ∈ creations as) :
    ∃ a ∈ as, ∃ creator, Traced.creator? a = some creator ∧
      e = (⟨.activity, creator⟩, ⟨Traced.kind α, Traced.id a⟩) := by
  obtain ⟨id, -, hbind⟩ := List.mem_filterMap.1 he
  obtain ⟨a, ha, hmap⟩ := Option.bind_eq_some_iff.1 hbind
  obtain ⟨creator, hcreator, rfl⟩ := Option.map_eq_some_iff.1 hmap
  exact ⟨a, latest?_mem ha, creator, hcreator, by rw [id_of_latest? ha]⟩

end Announcements

/-- What is read off the entries of a table is read off the last announcements. -/
theorem Population.Holds.filterMap_entries {α β : Type} [Traced α] {limit : Int} {as : List α}
    {p : Population α} (h : p.Holds limit as) (f : Int → Traits → Option β) :
    p.table.entries.filterMap (fun e => f e.1 (Traced.traits e.2.item)) =
      (Announcements.ids as).filterMap fun id => (latest? as id).bind fun a => f id (Traced.traits a) := by
  rw [← h.ids, Table.keys, List.filterMap_map]
  apply List.filterMap_congr
  intro e he
  obtain ⟨a, ha, ht⟩ := h.entry he
  simp only [Function.comp, ha, Option.bind_some, ht]

namespace History

/-- The node that stands for a thing; a thing that is not known stands for itself. -/
def nodeOf (past : History) (e : EntityRef) : NodeRef := (past.standIn? e).getD (.entity e)

def creations (past : History) : List (EntityRef × EntityRef) :=
  Announcements.creations past.activities ++ Announcements.creations past.passives

/-- Messages between single things. -/
def messages (past : History) : Tally EntityRef := Tally.run (Tally.ones past.ends) Tally.empty

/-- Messages between the nodes that stand for the things. -/
def messageLinks (past : History) : Tally NodeRef :=
  Tally.run (past.messages.increments.map (Tally.Increment.map past.nodeOf)) Tally.empty

/-- Creations between the nodes that stand for the things. -/
def creationLinks (past : History) : Tally NodeRef :=
  Tally.run ((Tally.ones past.creations).map (Tally.Increment.map past.nodeOf)) Tally.empty

def links (past : History) : List Link :=
  View.linksOf false past.messageLinks ++ View.linksOf true past.creationLinks

theorem linksOf_eq (creation : Bool) (t : Tally NodeRef) :
    View.linksOf creation t = t.increments.map fun i => ⟨i.source, i.target, i.amount, creation⟩ := by
  rw [View.linksOf, Tally.increments, List.map_map]
  rfl

/-- The nodes of both listings. -/
def nodes (past : History) : List NodeRef :=
  listing activityThreshold past.activities ++ listing passiveThreshold past.passives

variable {past : History}

theorem standIn?_of_knows {e : EntityRef} (h : past.Knows e) : past.standIn? e = some (past.nodeOf e) := by
  obtain ⟨kind, id⟩ := e
  cases kind with
  | activity =>
    obtain ⟨ref, href⟩ := standIn?_of_mem_ids activityThreshold h
    simp [nodeOf, standIn?, href]
  | passiveEntity =>
    obtain ⟨ref, href⟩ := standIn?_of_mem_ids passiveThreshold h
    simp [nodeOf, standIn?, href]
  | dynamicScope => exact h.elim

theorem Closed.knows_of_mem_ends (h : past.Closed) {e : EntityRef × EntityRef} (he : e ∈ past.ends) :
    past.Knows e.1 ∧ past.Knows e.2 := by
  obtain ⟨x, hx, hends⟩ := List.mem_filterMap.1 he
  obtain ⟨ends, hends', hs, hd⟩ := h.ends x hx
  obtain rfl := Option.some.inj (hends.symm.trans hends')
  exact ⟨hs, hd⟩

/-- Messages are counted only between known things. -/
theorem Closed.knows_of_mem_increments (h : past.Closed) {i : Tally.Increment EntityRef}
    (hi : i ∈ past.messages.increments) : past.Knows i.source ∧ past.Knows i.target := by
  refine Tally.forall_increments_run (Q := fun s d => past.Knows s ∧ past.Knows d) ?_ ?_ i hi
  · intro j hj
    cases hj
  · intro j hj
    obtain ⟨e, he, rfl⟩ := List.mem_map.1 hj
    exact h.knows_of_mem_ends he

theorem Closed.knows_of_mem_creations (h : past.Closed) {e : EntityRef × EntityRef}
    (he : e ∈ past.creations) : past.Knows e.1 ∧ past.Knows e.2 := by
  rw [creations, List.mem_append] at he
  rcases he with he | he
  · obtain ⟨a, ha, creator, hcreator, rfl⟩ := mem_creations he
    exact ⟨h.creators a ha creator hcreator, mem_ids.2 ⟨a, ha, rfl⟩⟩
  · obtain ⟨a, ha, creator, hcreator, rfl⟩ := mem_creations he
    obtain rfl := Option.some.inj hcreator
    exact ⟨h.makers a ha, mem_ids.2 ⟨a, ha, rfl⟩⟩

end History

namespace View

variable {v : View} {past : History}

/-! ### Listings -/

theorem Holds.listActivities (h : v.Holds past) :
    ∃ log, v.listActivities = .ok ({ v with activities := v.activities.listed },
      listing activityThreshold past.activities, log) := by
  obtain ⟨log, hlog⟩ := h.activities.list
  exact ⟨log, by simp only [View.listActivities, hlog, bind, Except.bind, pure, Except.pure]⟩

theorem Holds.listPassives (h : v.Holds past) :
    ∃ log, v.listPassives = .ok ({ v with passives := v.passives.listed },
      listing passiveThreshold past.passives, log) := by
  obtain ⟨log, hlog⟩ := h.passives.list
  exact ⟨log, by simp only [View.listPassives, hlog, bind, Except.bind, pure, Except.pure]⟩

/-- The view after both listings. -/
def listed (v : View) : View :=
  { v with activities := v.activities.listed, passives := v.passives.listed }

theorem Holds.mapPopulations (h : v.Holds past) {p : Population Activity} {q : Population PassiveEntity}
    (hp : p.Holds activityThreshold past.activities) (hq : q.Holds passiveThreshold past.passives) :
    Holds { v with activities := p, passives := q } past :=
  ⟨hp, hq, h.messages, h.closed⟩

theorem Holds.listed (h : v.Holds past) : v.listed.Holds past :=
  h.mapPopulations h.activities.listed h.passives.listed

theorem Holds.find (h : v.Holds past) (dataId : String) :
    ∃ log, v.find dataId = .ok (v.listed, past.nodes.find? (·.dataId = dataId), log) := by
  obtain ⟨log, hlog⟩ := h.listActivities
  obtain ⟨more, hmore⟩ := (h.mapPopulations h.activities.listed h.passives).listPassives
  refine ⟨log ++ more, ?_⟩
  simp only [View.find, hlog, hmore, bind, Except.bind, pure, Except.pure, View.listed, History.nodes]

/-! ### Links -/

/-- The view with every crowded group promoted. -/
def settled (v : View) : View :=
  { v with activities := v.activities.settled, passives := v.passives.settled }

theorem Holds.settled (h : v.Holds past) : v.settled.Holds past :=
  h.mapPopulations h.activities.settled h.passives.settled

theorem Holds.settledWith (h : v.Holds past) (maxLink : Int) :
    Holds { v.settled with maxLink } past :=
  ⟨h.activities.settled, h.passives.settled, h.messages, h.closed⟩

theorem Holds.promoteAll (h : v.Holds past) : ∃ log, v.promoteAll = .ok (v.settled, log) := by
  obtain ⟨log, hlog⟩ := h.activities.promoteAll
  obtain ⟨more, hmore⟩ := h.passives.promoteAll
  refine ⟨log ++ more, ?_⟩
  simp only [View.promoteAll, hlog, hmore, bind, Except.bind, pure, Except.pure, View.settled]

theorem Holds.visible_settled (h : v.Holds past) {e : EntityRef} (he : past.Knows e) :
    v.settled.visible e = .ok (past.nodeOf e) := by
  have hstand := History.standIn?_of_knows he
  obtain ⟨kind, id⟩ := e
  cases kind with
  | activity =>
    obtain ⟨ref, href, hvisible⟩ := h.activities.visible_settled he
    obtain rfl := Option.some.inj (hstand.symm.trans href)
    exact hvisible
  | passiveEntity =>
    obtain ⟨ref, href, hvisible⟩ := h.passives.visible_settled he
    obtain rfl := Option.some.inj (hstand.symm.trans href)
    exact hvisible
  | dynamicScope => exact he.elim

theorem Holds.foldedMessages (h : v.Holds past) :
    v.settled.foldedMessages = .ok past.messageLinks := by
  have hmessages : v.settled.messages = past.messages := h.messages
  have hstep : ∀ i ∈ past.messages.items, ∀ t : Tally NodeRef,
      (do return t.add (← v.settled.visible i.1) (← v.settled.visible i.2.1) i.2.2 : Except Fault _) =
        .ok (t.add (past.nodeOf i.1) (past.nodeOf i.2.1) i.2.2) := by
    intro i hi t
    obtain ⟨hs, hd⟩ := h.closed.knows_of_mem_increments (List.mem_map_of_mem hi)
    simp only [h.visible_settled hs, h.visible_settled hd, bind, Except.bind, pure, Except.pure]
  rw [View.foldedMessages, hmessages]
  refine (foldlM_eq_ok (g := fun t i => t.add (past.nodeOf i.1) (past.nodeOf i.2.1) i.2.2) hstep
    Tally.empty).trans ?_
  rw [History.messageLinks, Tally.run, Tally.increments, List.map_map, List.foldl_map]
  rfl

theorem Holds.creations (h : v.Holds past) : v.creations = past.creations := by
  have hactivities := h.activities.filterMap_entries fun id t =>
    t.creator?.map fun creator => ((⟨.activity, creator⟩, ⟨.activity, id⟩) : EntityRef × EntityRef)
  have hpassives := h.passives.filterMap_entries fun id t =>
    t.creator?.map fun creator => ((⟨.activity, creator⟩, ⟨.passiveEntity, id⟩) : EntityRef × EntityRef)
  exact congrArg₂ (· ++ ·) hactivities hpassives

theorem Holds.foldedCreations (h : v.Holds past) :
    v.settled.foldedCreations = .ok past.creationLinks := by
  have hstep : ∀ e ∈ past.creations, ∀ t : Tally NodeRef,
      (do return t.add (← v.settled.visible e.1) (← v.settled.visible e.2) 1 : Except Fault _) =
        .ok (t.add (past.nodeOf e.1) (past.nodeOf e.2) 1) := by
    intro e he t
    obtain ⟨hs, hd⟩ := h.closed.knows_of_mem_creations he
    simp only [h.visible_settled hs, h.visible_settled hd, bind, Except.bind, pure, Except.pure]
  rw [View.foldedCreations, h.settled.creations]
  refine (foldlM_eq_ok (g := fun t e => t.add (past.nodeOf e.1) (past.nodeOf e.2) 1) hstep
    Tally.empty).trans ?_
  rw [History.creationLinks, Tally.run, Tally.ones, List.map_map, List.foldl_map]
  rfl

/-- The links are those of the history. -/
theorem Holds.links (h : v.Holds past) :
    ∃ log, v.links = .ok ({ v.settled with maxLink := past.messageLinks.max }, past.links, log) := by
  obtain ⟨log, hlog⟩ := h.promoteAll
  refine ⟨log, ?_⟩
  have hcreations : View.foldedCreations { v.settled with maxLink := past.messageLinks.max } =
      .ok past.creationLinks := h.foldedCreations
  simp only [View.links, hlog, h.foldedMessages, hcreations, bind, Except.bind, pure, Except.pure,
    History.links]

end View

end TraceGraph
