import TraceGraph.Proofs.Coarsening
import TraceGraph.Proofs.Continuity
import TraceGraph.Proofs.DataId
import TraceGraph.Proofs.Promotions

/-! Grouping is sticky and only ever coarsens. A group that has a node is listed by that node from then
on, and none of its members is listed alone again. Things that one node stands for at one read stand
behind one node at every later read, and so the most messages on a link never get fewer. -/

namespace TraceGraph

open Announcements Traced

/-- How a group that has a node at a place is listed after some coordinates were assigned to the node. -/
structure Group.Stays {α β : Type} [Traced α] (g later : Group α) (place : Position)
    (moves : List (Axis × Number)) (refs : List NodeRef) (find : NodeRef → Option β) (wrap : Node α → β) :
    Prop where
  /-- It is the same group, with all its members and perhaps further ones. -/
  continues : g.Continues later moves
  size_le : g.size ≤ later.size
  listed : Population.groupRef g ∈ refs
  /-- Its node stands where the assignments to it have put it. -/
  node : find (Population.groupRef g) = some (wrap ⟨.group g.id later.members, place.setAll moves⟩)
  /-- No member is listed alone. -/
  covered : ∀ a ∈ later.members, Population.ownRef a ∉ refs

/-! ### Populations -/

namespace Population

variable {α : Type} [Traced α] {limit : Int} {as : List α} {p q : Population α} {moves : Assignments}

/-- What is shown at a listed node. -/
theorem Holds.mem_members_listed (h : p.Holds limit as) (hids : (as.map Traced.id).Nodup) {ref : NodeRef}
    {id : Int} :
    (ref ∈ listing limit as ∧ ∃ n, p.listed.node? ref = some n ∧ ∃ a ∈ n.members, Traced.id a = id) ↔
      ∃ a ∈ as, Traced.id a = id ∧ nodeOf limit as a = ref := by
  have hshown := h.shows hids
  constructor
  · rintro ⟨href, n, hn, a, ha, rfl⟩
    rw [h.node?_listed href] at hn
    obtain ⟨n', hn', hmembers⟩ := hshown.of_mem_listing hids href
    obtain rfl := Option.some.inj (hn.symm.trans hn')
    have ht : traits a ∈ (part limit as ref).map traits := by
      rw [← hmembers]
      exact List.mem_map_of_mem ha
    obtain ⟨b, hb, hba⟩ := List.mem_map.1 ht
    obtain ⟨hbas, hnode⟩ := List.mem_filter.1 hb
    exact ⟨b, hbas, congrArg Traits.id hba, of_decide_eq_true hnode⟩
  · rintro ⟨a, ha, rfl, rfl⟩
    have href : nodeOf limit as a ∈ listing limit as := (mem_listing_iff hids).2 ⟨a, ha, rfl⟩
    obtain ⟨n, hn, -, hmembers⟩ := hshown a ha
    have ht : traits a ∈ n.members.map traits := by
      rw [hmembers]
      exact List.mem_map_of_mem (List.mem_filter.2 ⟨ha, decide_eq_true rfl⟩)
    obtain ⟨b, hb, hba⟩ := List.mem_map.1 ht
    exact ⟨href, n, (h.node?_listed href).trans hn, b, hb, congrArg Traits.id hba⟩

/-- A group that had a node is listed by it, in whatever its node is looked up. -/
theorem Holds.stays {β : Type} {find : NodeRef → Option β} {wrap : Node α → β} (h : q.Holds limit as)
    (hids : (as.map Traced.id).Nodup)
    (hfind : ∀ ref n, q.listed.node? ref = some n → find ref = some (wrap n))
    (hc : p.Continues q moves) {key : String} {g : Group α} (hg : p.groups.get? key = some g)
    {place : Position} (hplace : g.place = some place) :
    ∃ later, q.listed.groups.get? key = some later ∧
      g.Stays later place (moves.to (groupRef g)) (listing limit as) find wrap := by
  have hlisted := hc.trans (.listed q)
  rw [List.append_nil] at hlisted
  obtain ⟨later, hlater, hcontinues⟩ := hlisted key g hg
  have hplace' := hcontinues.place place hplace
  have hp : later.isPromoted = true := Option.isSome_iff_exists.2 ⟨_, hplace'⟩
  have hh := h.listed.groups key later hlater
  have href : groupRef later = groupRef g := by rw [groupRef, groupRef, hcontinues.id]
  refine ⟨later, hlater, hcontinues, hcontinues.size_le, ?_, ?_, ?_⟩
  · obtain ⟨a, ha, rfl⟩ := mem_keys.1 (h.listed.mem_keys_of_get? hlater)
    refine (mem_listing_iff hids).2 ⟨a, ha, ?_⟩
    rw [nodeOf_of_crowded (hh.crowded hp), ← href, groupRef, hh.number]
  · have hnode : q.listed.node? (groupRef later) = later.node? := by
      rw [groupRef, node?, if_pos rfl, groupNode?, hh.number, h.listed.byId? hlater, Option.bind_some]
    rw [Group.node?, hplace', Option.map_some, hcontinues.id, href] at hnode
    exact hfind _ _ hnode
  · intro a ha
    obtain ⟨b, hb, hid, hcrowd⟩ := h.listed.announced_of_promoted hlater hp ha
    rw [ownRef, ← hid]
    exact own_not_mem_listing hids hb hcrowd _

/-- The node that stands for an announcement is that of a promoted group exactly if the group of its key
is promoted. -/
theorem Holds.nodeOf_mem_promotedRefs (h : p.Holds limit as) {a : α} {g : Group α}
    (hg : p.groups.get? (Traced.key a) = some g) :
    nodeOf limit as a ∈ p.groups.promotedRefs ↔ g.isPromoted = true := by
  have hh := h.groups _ g hg
  rw [GroupTable.promotedRefs_eq, List.mem_map, h.kind]
  constructor
  · rintro ⟨e, he, href⟩
    obtain ⟨hmem, hp⟩ := List.mem_filter.1 he
    by_cases hc : Crowded limit as (Traced.key a)
    · have hget := Table.get?_of_mem hmem
      rw [nodeOf_of_crowded hc] at href
      have hid : e.2.id = number as (Traced.key a) := (NodeRef.group.inj href).2
      rw [(h.group_number hget).1] at hid
      rw [number_inj (h.mem_keys_of_get? hget) hid] at hget
      rwa [Option.some.inj (hg.symm.trans hget)]
    · rw [nodeOf_of_not_crowded hc] at href
      cases href
  · intro hp
    refine ⟨(Traced.key a, g), List.mem_filter.2 ⟨(Table.get?_eq_some_iff _ _ _).1 hg, hp⟩, ?_⟩
    rw [nodeOf_of_crowded (hh.crowded hp), hh.number]

theorem mem_keys_of_visible {id : Int} {ref : NodeRef} (h : p.visible id = .ok ref) :
    id ∈ p.table.keys := by
  unfold visible at h
  split at h
  · cases h
  · next hx => exact Table.mem_keys_of_get? hx

/-- At present a thing is found at its group's node if the group is promoted, or else at its own. -/
theorem Holds.visible_eq (h : p.Holds limit as) {id : Int} {a : α} (ha : latest? as id = some a) :
    p.visible id = .ok (if nodeOf limit as a ∈ p.groups.promotedRefs then nodeOf limit as a
      else .entity ⟨Traced.kind α, id⟩) := by
  obtain ⟨e, he, rfl, ht⟩ := h.entry_of_latest? ha
  obtain ⟨g, hg, hh⟩ := h.get?_of_mem (h.key_mem he)
  rw [← nodeOf_congr ht]
  simp only [Population.visible, Table.get?_of_mem he, GroupTable.get_of_get? hg, bind, Except.bind, pure,
    Except.pure, h.nodeOf_mem_promotedRefs hg]
  by_cases hp : g.isPromoted = true
  · rw [if_pos hp, if_pos hp, nodeOf_of_crowded (hh.crowded hp), groupRef, hh.number]
  · rw [if_neg hp, if_neg hp, ownRef, h.id_eq he]

theorem Holds.crowded_of_mem_promotedRefs (h : p.Holds limit as) {a : α} (ha : a ∈ as)
    (hnode : nodeOf limit as a ∈ p.groups.promotedRefs) : Crowded limit as (Traced.key a) := by
  obtain ⟨g, hg, hh⟩ := h.get?_of_mem (mem_keys.2 ⟨a, ha, rfl⟩)
  exact hh.crowded ((h.nodeOf_mem_promotedRefs hg).1 hnode)

end Population

/-! ### What stands for a thing -/

/-- Whether a thing is among those that a node shows. -/
def AnyNode.Shows : AnyNode → EntityRef → Prop
  | activity n, e => e.kind = .activity ∧ ∃ a ∈ n.members, a.id = e.id
  | passive n, e => e.kind = .passiveEntity ∧ ∃ a ∈ n.members, a.id = e.id

namespace View

variable {v w : View} {past more : History} {e f : EntityRef} {ref : NodeRef}

/-- A node represents a thing in a listing: it is listed, and the thing is among those that it shows. -/
def Represents (v : View) (ref : NodeRef) (e : EntityRef) : Prop :=
  ∃ w refs log n, (v.listActivities = .ok (w, refs, log) ∨ v.listPassives = .ok (w, refs, log)) ∧
    ref ∈ refs ∧ w.node? ref = some n ∧ n.Shows e

/-- Every known thing is represented by the node that stands for it, and by no other. -/
theorem Holds.represents_iff (h : v.Holds past) (hids : past.Distinct) :
    v.Represents ref e ↔ past.Knows e ∧ past.nodeOf e = ref := by
  obtain ⟨log, hlog⟩ := h.listActivities
  obtain ⟨more, hmore⟩ := h.listPassives
  constructor
  · obtain ⟨kind, id⟩ := e
    rintro ⟨w, refs, _, n, hw | hw, href, hn, hshows⟩
    · rw [hlog, Except.ok.injEq, Prod.mk.injEq, Prod.mk.injEq] at hw
      obtain ⟨rfl, rfl, -⟩ := hw
      have hother : v.passives.node? ref = none :=
        Population.node?_of_other_kind (by rw [kind_of_mem_listing href]; decide)
      rw [node?_activities (v := { v with activities := v.activities.listed }) hother,
        Option.map_eq_some_iff] at hn
      obtain ⟨n, hn, rfl⟩ := hn
      obtain ⟨rfl, hmember⟩ := hshows
      obtain ⟨a, ha, rfl, hnode⟩ :=
        (h.activities.mem_members_listed hids.activities).1 ⟨href, n, hn, hmember⟩
      exact ⟨mem_ids.2 ⟨a, ha, rfl⟩, (hids.nodeOf_activity ha).trans hnode⟩
    · rw [hmore, Except.ok.injEq, Prod.mk.injEq, Prod.mk.injEq] at hw
      obtain ⟨rfl, rfl, -⟩ := hw
      have hother : v.activities.node? ref = none :=
        Population.node?_of_other_kind (by rw [kind_of_mem_listing href]; decide)
      rw [node?_passives (v := { v with passives := v.passives.listed }) hother,
        Option.map_eq_some_iff] at hn
      obtain ⟨n, hn, rfl⟩ := hn
      obtain ⟨rfl, hmember⟩ := hshows
      obtain ⟨a, ha, rfl, hnode⟩ :=
        (h.passives.mem_members_listed hids.passives).1 ⟨href, n, hn, hmember⟩
      exact ⟨mem_ids.2 ⟨a, ha, rfl⟩, (hids.nodeOf_passive ha).trans hnode⟩
  · rintro ⟨he, rfl⟩
    obtain ⟨a, ha, rfl⟩ | ⟨a, ha, rfl⟩ := he.exists_announcement
    · rw [hids.nodeOf_activity ha]
      obtain ⟨href, n, hn, hmember⟩ := (h.activities.mem_members_listed hids.activities).2 ⟨a, ha, rfl, rfl⟩
      exact ⟨_, _, log, _, .inl hlog, href, node?_activity hn, rfl, hmember⟩
    · rw [hids.nodeOf_passive ha]
      obtain ⟨href, n, hn, hmember⟩ := (h.passives.mem_members_listed hids.passives).2 ⟨a, ha, rfl, rfl⟩
      exact ⟨_, _, more, _, .inr hmore, href, node?_passive hn, rfl, hmember⟩

/-- Whatever is found is known. -/
theorem Holds.knows_of_visible (h : v.Holds past) (hvisible : v.visible e = .ok ref) : past.Knows e := by
  obtain ⟨kind, id⟩ := e
  cases kind with
  | activity =>
    have hid := Population.mem_keys_of_visible hvisible
    rwa [h.activities.ids] at hid
  | passiveEntity =>
    have hid := Population.mem_keys_of_visible hvisible
    rwa [h.passives.ids] at hid
  | dynamicScope => cases hvisible

theorem Holds.mem_promotedRefs_activity (h : v.Holds past) {ref : NodeRef} (href : ref.kind = .activity) :
    ref ∈ v.promotedRefs ↔ ref ∈ v.activities.groups.promotedRefs := by
  rw [promotedRefs, List.mem_append, or_iff_left]
  intro hmem
  cases href.symm.trans (h.passives.kind_of_mem_promotedRefs hmem)

theorem Holds.mem_promotedRefs_passive (h : v.Holds past) {ref : NodeRef} (href : ref.kind = .passiveEntity) :
    ref ∈ v.promotedRefs ↔ ref ∈ v.passives.groups.promotedRefs := by
  rw [promotedRefs, List.mem_append, or_iff_right]
  intro hmem
  cases href.symm.trans (h.activities.kind_of_mem_promotedRefs hmem)

/-- At present a thing is found at the node that stands for it if that is promoted, or else at its own. -/
theorem Holds.visible_eq (h : v.Holds past) (hids : past.Distinct) (he : past.Knows e) :
    v.visible e = .ok (if past.nodeOf e ∈ v.promotedRefs then past.nodeOf e else .entity e) := by
  obtain ⟨a, ha, rfl⟩ | ⟨a, ha, rfl⟩ := he.exists_announcement
  · simp only [hids.nodeOf_activity ha, h.mem_promotedRefs_activity (kind_nodeOf _ _ a)]
    exact h.activities.visible_eq (latest?_of_mem hids.activities ha)
  · simp only [hids.nodeOf_passive ha, h.mem_promotedRefs_passive (kind_nodeOf _ _ a)]
    exact h.passives.visible_eq (latest?_of_mem hids.passives ha)

/-- A promoted node goes on to stand for a thing. -/
theorem Holds.nodeOf_append (h : v.Holds past) (hids : History.Distinct (past ++ more)) (he : past.Knows e)
    (hp : past.nodeOf e ∈ v.promotedRefs) : History.nodeOf (past ++ more) e = past.nodeOf e := by
  have hpast := hids.of_append
  obtain ⟨a, ha, rfl⟩ | ⟨a, ha, rfl⟩ := he.exists_announcement
  · rw [hpast.nodeOf_activity ha, h.mem_promotedRefs_activity (kind_nodeOf _ _ a)] at hp
    rw [hids.nodeOf_activity (History.mem_activities_append ha more), hpast.nodeOf_activity ha,
      History.activities_append]
    exact nodeOf_append_of_crowded ha (h.activities.crowded_of_mem_promotedRefs ha hp) _
  · rw [hpast.nodeOf_passive ha, h.mem_promotedRefs_passive (kind_nodeOf _ _ a)] at hp
    rw [hids.nodeOf_passive (History.mem_passives_append ha more), hpast.nodeOf_passive ha,
      History.passives_append]
    exact nodeOf_append_of_crowded ha (h.passives.crowded_of_mem_promotedRefs ha hp) _

/-! ### Earlier and later -/

theorem entity_not_mem_promotedRefs (v : View) (e : EntityRef) : NodeRef.entity e ∉ v.promotedRefs := by
  simp [promotedRefs, GroupTable.promotedRefs]

/-- A thing is found at its own node, or at that of a group, where it is found later as well. -/
theorem Holds.visible_stays (h : v.Holds past) (hw : w.Holds (past ++ more))
    (hids : History.Distinct (past ++ more)) (hp : v.promotedRefs ⊆ w.promotedRefs)
    (he : v.visible e = .ok ref) :
    ref = .entity e ∨ ref ∈ v.promotedRefs ∧ w.visible e = .ok ref := by
  have hknown := h.knows_of_visible he
  rw [h.visible_eq hids.of_append hknown] at he
  split at he
  · next hmem =>
    obtain rfl := Except.ok.inj he
    refine .inr ⟨hmem, ?_⟩
    rw [hw.visible_eq hids (hknown.append more), h.nodeOf_append hids hknown hmem, if_pos (hp hmem)]
  · exact .inl (Except.ok.inj he).symm

/-- Things found at one node before are found at one node later. -/
theorem Holds.visible_together (h : v.Holds past) (hw : w.Holds (past ++ more))
    (hids : History.Distinct (past ++ more)) (hp : v.promotedRefs ⊆ w.promotedRefs)
    (he : v.visible e = .ok ref) (hf : v.visible f = .ok ref) :
    ∃ ref', w.visible e = .ok ref' ∧ w.visible f = .ok ref' := by
  have hknown := (h.knows_of_visible he).append more
  obtain rfl | ⟨hmem, he'⟩ := h.visible_stays hw hids hp he <;>
    obtain hf' | ⟨hmem', hf'⟩ := h.visible_stays hw hids hp hf
  · obtain rfl := NodeRef.entity.inj hf'
    exact ⟨_, hw.visible_eq hids hknown, hw.visible_eq hids hknown⟩
  · exact absurd hmem' (v.entity_not_mem_promotedRefs e)
  · rw [hf'] at hmem
    exact absurd hmem (v.entity_not_mem_promotedRefs f)
  · exact ⟨ref, he', hf'⟩

/-- Things that one node represents before are represented by one node later. -/
theorem Holds.represents_together (h : v.Holds past) (hw : w.Holds (past ++ more))
    (hids : History.Distinct (past ++ more)) (he : v.Represents ref e) (hf : v.Represents ref f) :
    ∃ ref', ∀ r, (w.Represents r e ↔ r = ref') ∧ (w.Represents r f ↔ r = ref') := by
  obtain ⟨hknown, hnode⟩ := (h.represents_iff hids.of_append).1 he
  obtain ⟨hknown', hnode'⟩ := (h.represents_iff hids.of_append).1 hf
  have hsame := hids.nodeOf_append_congr hknown hknown' (hnode.trans hnode'.symm)
  refine ⟨History.nodeOf (past ++ more) e, fun r => ?_⟩
  rw [hw.represents_iff hids, hw.represents_iff hids, ← hsame]
  simp only [hknown.append more, hknown'.append more, true_and, eq_comm, and_self]

/-- After the links were read, a thing is found at the node that represents it in a listing. -/
theorem Holds.visible_links (h : v.Holds past) (hids : past.Distinct) :
    ∃ u ls log, v.links = .ok (u, ls, log) ∧ ∀ ref e, u.visible e = .ok ref ↔ v.Represents ref e := by
  obtain ⟨log, hlog⟩ := h.links
  refine ⟨_, _, log, hlog, fun ref e => ?_⟩
  rw [h.represents_iff hids]
  constructor
  · intro hvisible
    have hknown := h.settled.knows_of_visible hvisible
    exact ⟨hknown, Except.ok.inj ((h.visible_settled hknown).symm.trans hvisible)⟩
  · rintro ⟨hknown, rfl⟩
    exact h.visible_settled hknown

/-- How a view goes on from what it was before: `moves` are the coordinates that were assigned in between,
and `log` is all that was written since the view was new. -/
structure Coarsens (v w : View) (moves : Assignments) (log : List Log.Record) : Prop where
  /-- Only crowded groups have a node. -/
  activitiesCrowded : ∀ key g, w.activities.groups.get? key = some g → g.isPromoted = true → 4 < g.size
  passivesCrowded : ∀ key g, w.passives.groups.get? key = some g → g.isPromoted = true → 3 < g.size
  /-- A group that had a node is listed by that node. -/
  activitiesStay : ∃ u refs log, w.listActivities = .ok (u, refs, log) ∧
    ∀ key g place, v.activities.groups.get? key = some g → g.place = some place →
      ∃ later, u.activities.groups.get? key = some later ∧
        g.Stays later place (moves.to (Population.groupRef g)) refs u.node? .activity
  passivesStay : ∃ u refs log, w.listPassives = .ok (u, refs, log) ∧
    ∀ key g place, v.passives.groups.get? key = some g → g.place = some place →
      ∃ later, u.passives.groups.get? key = some later ∧
        g.Stays later place (moves.to (Population.groupRef g)) refs u.node? .passive
  /-- One promotion was written for each group that has a node, and no other. -/
  promotions : ∃ ps : List (NodeRef × Nat), promotionsIn log = ps.map (fun p => p.1.promotionRecord p.2) ∧
    (ps.map Prod.fst).Perm w.promotedRefs ∧ (ps.map Prod.fst).Nodup
  /-- Things that one node represented are represented by one node, and no other. -/
  together : ∀ ref e f, v.Represents ref e → v.Represents ref f →
    ∃ ref', ∀ r, (w.Represents r e ↔ r = ref') ∧ (w.Represents r f ↔ r = ref')
  /-- Things that were found at one node are found at one node. -/
  visible : ∀ ref e f, v.visible e = .ok ref → v.visible f = .ok ref →
    ∃ ref', w.visible e = .ok ref' ∧ w.visible f = .ok ref'
  /-- Links are between the nodes that represent things in listings. -/
  links : ∃ u ls log, w.links = .ok (u, ls, log) ∧ ∀ ref e, u.visible e = .ok ref ↔ w.Represents ref e
  /-- The most messages on a link, as last read, have not become fewer. -/
  maxLink : v.maxLink ≤ w.maxLink

/-- Throughout a run without reset in which no id comes twice, the view coarsens. -/
theorem grouping_coarsens (m : Option MetaModel) (before after : List Op)
    (hops : ∀ op ∈ before ++ after, op ≠ .reset) (hids : (history m (before ++ after)).Distinct) :
    Coarsens (run before (new m)) (run (before ++ after) (new m)) (assignmentsIn after (run before (new m)))
      (written (before ++ after) (new m)) := by
  have hafter : ∀ op ∈ after, op ≠ .reset := fun op hop => hops op (List.mem_append_right _ hop)
  have hbefore : ∀ op ∈ before, op ≠ .reset := fun op hop => hops op (List.mem_append_left _ hop)
  have h := holds_run m before
  have hw := holds_run m (before ++ after)
  have hcontinues := h.continues_run hafter
  have hpromotes := promotes_run (run before (new m)) hafter
  have hpromotions := promotions_run m hops
  have hhistory : history m (before ++ after) = historyAfter after (run before (new m)) (history m before) :=
    historyAfter_append before after (new m) []
  obtain ⟨more, hmore⟩ := exists_historyAfter_eq (run before (new m)) (history m before) hafter
  rw [hhistory, hmore] at hids
  -- what was read of the links at first is bounded by what could be read, and that grows
  obtain ⟨-, hbound⟩ := (holds_new m).maxLink_run (le_refl _) hbefore hids.of_append
  obtain ⟨hlink, -⟩ := h.maxLink_run hbound hafter (by rwa [hmore])
  rw [hhistory, hmore] at hw
  rw [run_append] at hw hpromotions ⊢
  generalize run before (new m) = v at *
  generalize run after v = w at *
  generalize history m before = past at *
  have hsubset : v.promotedRefs ⊆ w.promotedRefs := by
    obtain ⟨ps, -, hperm⟩ := hpromotes
    exact fun ref href => hperm.mem_iff.2 (List.mem_append_left _ href)
  constructor
  case activitiesCrowded =>
    exact fun key g hg hp => Int.ofNat_lt.1 ((hw.activities.groups key g hg).promoted hp)
  case passivesCrowded =>
    exact fun key g hg hp => Int.ofNat_lt.1 ((hw.passives.groups key g hg).promoted hp)
  case activitiesStay =>
    obtain ⟨log, hlog⟩ := hw.listActivities
    refine ⟨_, _, log, hlog, fun key g place hg hplace => ?_⟩
    exact hw.activities.stays hids.activities (fun _ _ hn => node?_activity hn) hcontinues.activities hg
      hplace
  case passivesStay =>
    obtain ⟨log, hlog⟩ := hw.listPassives
    refine ⟨_, _, log, hlog, fun key g place hg hplace => ?_⟩
    exact hw.passives.stays hids.passives (fun _ _ hn => node?_passive hn) hcontinues.passives hg hplace
  case promotions => exact hpromotions
  case together => exact fun ref e f he hf => h.represents_together hw hids he hf
  case visible => exact fun ref e f he hf => h.visible_together hw hids hsubset he hf
  case links => exact hw.visible_links hids
  case maxLink => exact hlink

/-- Five workers crowd, two of them are sent messages, and their group is promoted. -/
def crowdingRun : List Op :=
  [.ingest ⟨[⟨1, "worker", 0, none, true⟩, ⟨2, "worker", 0, some 1, true⟩, ⟨3, "worker", 0, some 1, true⟩,
        ⟨4, "worker", 0, some 1, true⟩, ⟨5, "worker", 0, some 1, true⟩, ⟨6, "main", 0, some 1, true⟩], [],
      [⟨0, 6, 1⟩, ⟨0, 6, 2⟩], []⟩,
    .links]

/-- Their node is moved, a sixth worker comes and is sent a message, and a place crowds as well. -/
def growingRun : List Op :=
  let place : SourceRange := ⟨"a", 1, 2, 3⟩
  [.move "ag0" (some (.int 42)) none,
    .ingest ⟨[⟨7, "worker", 0, some 6, true⟩],
      [⟨1, 0, place, 1⟩, ⟨2, 0, place, 3⟩, ⟨3, 0, place, 7⟩, ⟨4, 0, place, 7⟩], [⟨0, 6, 7⟩], []⟩,
    .listPassives, .links]

theorem grouping_coarsens_growingRun :
    let m : MetaModel := ⟨Table.empty.set 0 .activity, Table.empty⟩
    let v := run crowdingRun (new m)
    let w := run (crowdingRun ++ growingRun) (new m)
    v.promotedRefs = [.group .activity 0] ∧ w.promotedRefs = [.group .activity 0, .group .passiveEntity 0] ∧
    assignmentsIn growingRun v = [(.group .activity 0, .x, .whole 42)] ∧ v.maxLink = 2 ∧ w.maxLink = 3 ∧
    (∀ op ∈ crowdingRun ++ growingRun, op ≠ .reset) ∧
    (history m (crowdingRun ++ growingRun)).Distinct ∧
    Coarsens v w (assignmentsIn growingRun v) (written (crowdingRun ++ growingRun) (new m)) := by
  intro m v w
  have hops : ∀ op ∈ crowdingRun ++ growingRun, op ≠ .reset := by simp [crowdingRun, growingRun]
  have hids : (history m (crowdingRun ++ growingRun)).Distinct := ⟨by decide +kernel, by decide +kernel⟩
  exact ⟨by decide +kernel, by decide +kernel, by decide +kernel, by decide +kernel, by decide +kernel, hops,
    hids, grouping_coarsens m crowdingRun growingRun hops hids⟩

end View

end TraceGraph
