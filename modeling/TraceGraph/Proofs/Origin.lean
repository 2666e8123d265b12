import TraceGraph.Proofs.Coordinates
import TraceGraph.Proofs.Location
import TraceGraph.Proofs.Stickiness

/-! Passive entities are grouped by where they come from. Location ids tell source ranges apart, so the
members of one group are the entities of one origin, and once the crowded groups are promoted, one node shows
two entities exactly if they have a crowded origin in common. -/

namespace TraceGraph

open Announcements Traced

/-! ### Origins -/

/-- All four fields of two source ranges agree. -/
def SourceRange.Agrees (r s : SourceRange) : Prop :=
  r.uri = s.uri ∧ r.startLine = s.startLine ∧ r.startColumn = s.startColumn ∧ r.charLength = s.charLength

instance (r s : SourceRange) : Decidable (r.Agrees s) := inferInstanceAs (Decidable (_ ∧ _))

theorem SourceRange.agrees_iff_eq {r s : SourceRange} : r.Agrees s ↔ r = s := by
  cases r
  cases s
  rw [SourceRange.mk.injEq, Agrees]

theorem SourceRange.locationId_eq_iff {r s : SourceRange} : r.locationId = s.locationId ↔ r.Agrees s := by
  rw [agrees_iff_eq, locationId_injective.eq_iff]

namespace PassiveEntity

/-- The entities that come from where an entity comes from. -/
def countAlike (es : List PassiveEntity) (e : PassiveEntity) : Nat := es.countP fun x => e.origin.Agrees x.origin

/-- Nothing of a passive entity is left out of its traits. -/
theorem traits_injective : Function.Injective (traits : PassiveEntity → Traits) := by
  rintro ⟨id, type, origin, creator⟩ ⟨id', type', origin', creator'⟩ h
  obtain ⟨rfl, hkey, rfl, hcreator⟩ := Traits.mk.inj h
  obtain rfl := SourceRange.locationId_injective hkey
  obtain rfl := Option.some.inj hcreator
  rfl

variable {es : List PassiveEntity} {e f : PassiveEntity}

theorem crowded_iff : Crowded passiveThreshold es (Traced.key e) ↔ 3 < countAlike es e := by
  have htest : es.filter (fun x => Traced.key x = Traced.key e) = es.filter fun x => e.origin.Agrees x.origin := by
    apply List.filter_congr
    intro x _
    exact decide_eq_decide.2 (eq_comm.trans SourceRange.locationId_eq_iff)
  rw [Crowded, sharing, htest, countAlike, List.countP_eq_length_filter, passiveThreshold]
  omega

/-- Two entities have the same node if they are the same or are crowded at the same origin. -/
theorem nodeOf_eq_iff (hids : (es.map PassiveEntity.id).Nodup) (he : e ∈ es) (hf : f ∈ es) :
    nodeOf passiveThreshold es e = nodeOf passiveThreshold es f ↔
      e = f ∨ 3 < countAlike es e ∧ e.origin.Agrees f.origin := by
  rw [eq_comm, ← crowded_iff]
  by_cases hc : Crowded passiveThreshold es (Traced.key e)
  · rw [nodeOf_eq_iff_of_crowded he hc, and_iff_right hc]
    have hkey : Traced.key f = Traced.key e ↔ e.origin.Agrees f.origin :=
      eq_comm.trans SourceRange.locationId_eq_iff
    rw [hkey, or_iff_right_of_imp]
    rintro rfl
    exact SourceRange.agrees_iff_eq.2 rfl
  · rw [nodeOf_eq_iff_of_not_crowded hc fun hid => List.inj_on_of_nodup_map hids hf he hid, eq_comm]
    simp [hc]

end PassiveEntity

open PassiveEntity

namespace View

variable {v : View} {past : History} {e f : PassiveEntity} {op : Op}

/-! ### Groups -/

/-- The group of a key holds the entities of its origin. -/
theorem Holds.members_passives (h : v.Holds past) {key : String} {g : Group PassiveEntity}
    (hg : v.passives.groups.get? key = some g) : g.members = sharing past.passives key :=
  traits_injective.list_map (h.passives.groups key g hg).members

theorem Holds.same_group_iff (h : v.Holds past) (he : e ∈ past.passives) (hf : f ∈ past.passives) :
    (∃ g ∈ v.passives.groups.toList, e ∈ g.members ∧ f ∈ g.members) ↔ e.origin.Agrees f.origin := by
  rw [← SourceRange.locationId_eq_iff]
  constructor
  · rintro ⟨g, hg, heg, hfg⟩
    obtain ⟨⟨key, g⟩, hentry, rfl⟩ := List.mem_map.1 hg
    rw [h.members_passives (Table.get?_of_mem hentry), sharing, List.mem_filter, decide_eq_true_iff] at heg hfg
    exact heg.2.trans hfg.2.symm
  · intro hkey
    obtain ⟨g, hg, -⟩ := h.passives.get?_of_mem (mem_keys.2 ⟨e, he, rfl⟩)
    refine ⟨g, List.mem_map_of_mem ((Table.get?_eq_some_iff _ _ _).1 hg), ?_⟩
    rw [h.members_passives hg]
    exact ⟨List.mem_filter.2 ⟨he, decide_eq_true rfl⟩, List.mem_filter.2 ⟨hf, decide_eq_true hkey.symm⟩⟩

/-! ### Nodes after a read -/

theorem Holds.read (h : v.Holds past) {kind : Kind} (hop : op.reads kind) : (op.run v).view.Holds past := by
  have hstep := h.step op
  cases op with
  | ingest | reset => cases hop
  | setMetaModel | listActivities | listPassives | links | find | move | setRunning | visible => exact hstep

section Distinct
variable (hids : (past.passives.map PassiveEntity.id).Nodup)
include hids

/-- A read promotes all that is crowded, and what it does besides leaves the groups promoted. -/
theorem Holds.continues_read (h : v.Holds past) (hop : op.reads .passiveEntity) :
    ∃ moves, v.passives.settled.Continues (op.run v).view.passives moves := by
  have hlisted : v.listed.passives = v.passives.settled := h.passives.listed_eq_settled hids
  rw [h.view_run op, ← hlisted]
  cases op with
  | ingest | setMetaModel | reset | listActivities | visible => cases hop
  | listPassives => exact ⟨_, .refl _⟩
  | links =>
    rw [hlisted]
    exact ⟨_, .refl _⟩
  | find => exact ⟨_, .refl _⟩
  | move dataId x y =>
    rw [Op.effect, h.view_move_eq]
    exact ⟨_, (h.listed.continues_assignAll _).passives⟩
  | setRunning dataId ids running =>
    rw [Op.effect]
    cases past.nodes.find? (·.dataId = dataId) with
    | none => exact ⟨_, .refl _⟩
    | some ref => exact ⟨_, (v.listed.continues_setRunning ref ids running).passives⟩

/-- After a read each entity is found at the node that stands for it. -/
theorem Holds.visible_read (h : v.Holds past) (hop : op.reads .passiveEntity) (he : e ∈ past.passives) :
    (op.run v).view.visible ⟨.passiveEntity, e.id⟩ = .ok (nodeOf passiveThreshold past.passives e) := by
  have hw := h.read hop
  obtain ⟨g, hg, -⟩ := hw.passives.get?_of_mem (mem_keys.2 ⟨e, he, rfl⟩)
  have hvisible := hw.passives.visible_eq (latest?_of_mem hids he)
  simp only [hw.passives.nodeOf_mem_promotedRefs hg] at hvisible
  refine hvisible.trans ?_
  by_cases hc : Crowded passiveThreshold past.passives (Traced.key e)
  · -- the group was promoted by the read and still is
    obtain ⟨moves, hcontinues⟩ := h.continues_read hids hop
    obtain ⟨g', hg', -⟩ := h.passives.settled.get?_of_mem (mem_keys.2 ⟨e, he, rfl⟩)
    obtain ⟨s, hs⟩ := Option.isSome_iff_exists.1 ((h.passives.isPromoted_settled hg').2 hc)
    obtain ⟨g'', hg'', hkept⟩ := hcontinues _ g' hg'
    obtain rfl := Option.some.inj (hg.symm.trans hg'')
    have hp : g.isPromoted = true := Option.isSome_of_eq_some (hkept.place s hs)
    rw [if_pos hp]
  · rw [if_neg fun hp => hc ((hw.passives.groups _ g hg).crowded hp), nodeOf_of_not_crowded hc]

/-- A listing shows an entity at the node that stands for it, and at no other. -/
theorem Holds.listed_at (h : v.Holds past) :
    ∃ w refs log, v.listPassives = .ok (w, refs, log) ∧ ∀ e ∈ past.passives, ∀ ref,
      (ref ∈ refs ∧ ∃ n, w.node? ref = some (.passive n) ∧ e ∈ n.members) ↔
        nodeOf passiveThreshold past.passives e = ref := by
  obtain ⟨log, hlog⟩ := h.listPassives
  refine ⟨_, _, log, hlog, fun e he ref => ?_⟩
  have hnode (href : ref ∈ listing passiveThreshold past.passives) :
      ∃ n, node? { v with passives := v.passives.listed } ref = some (.passive n) ∧
        n.members = part passiveThreshold past.passives ref := by
    obtain ⟨n, hn, hmembers⟩ := (h.passives.shows hids).of_mem_listing hids href
    rw [← h.passives.node?_listed href] at hn
    exact ⟨n, node?_passive hn, traits_injective.list_map hmembers⟩
  constructor
  · rintro ⟨href, n, hn, hmem⟩
    obtain ⟨n', hn', hmembers⟩ := hnode href
    obtain rfl := AnyNode.passive.inj (Option.some.inj (hn.symm.trans hn'))
    rw [hmembers, part, List.mem_filter, decide_eq_true_iff] at hmem
    exact hmem.2
  · intro hown
    have href : ref ∈ listing passiveThreshold past.passives := (mem_listing_iff hids).2 ⟨e, he, hown⟩
    obtain ⟨n, hn, hmembers⟩ := hnode href
    refine ⟨href, n, hn, ?_⟩
    rw [hmembers]
    exact List.mem_filter.2 ⟨he, decide_eq_true hown⟩

end Distinct

/-- Location ids agree exactly if all four fields of the source ranges do. So as long as no id of a passive
entity comes twice, two entities are members of one group exactly if their origins agree, and after a read one
node stands for both, in links and in listings, exactly if the origin that they have in common is crowded. -/
theorem passives_grouped_by_origin (m : Option MetaModel) (ops : List Op)
    (hids : ((history m ops).passives.map PassiveEntity.id).Nodup) :
    let v := run ops (new m)
    let es := (history m ops).passives
    (∀ r s : SourceRange, r.locationId = s.locationId ↔ r.Agrees s) ∧
    (∀ e ∈ es, ∀ f ∈ es,
      (∃ g ∈ v.passives.groups.toList, e ∈ g.members ∧ f ∈ g.members) ↔ e.origin.Agrees f.origin) ∧
    ∀ op : Op, op.reads .passiveEntity →
      let w := (op.run v).view
      (∀ e ∈ es, (∃ n, w.visible ⟨.passiveEntity, e.id⟩ = .ok (.group .passiveEntity n)) ↔ 3 < countAlike es e) ∧
      (∀ e ∈ es, ∀ f ∈ es,
        (∃ ref, w.visible ⟨.passiveEntity, e.id⟩ = .ok ref ∧ w.visible ⟨.passiveEntity, f.id⟩ = .ok ref) ↔
          e = f ∨ 3 < countAlike es e ∧ e.origin.Agrees f.origin) ∧
      ∃ u refs log, w.listPassives = .ok (u, refs, log) ∧ ∀ e ∈ es, ∀ ref,
        (ref ∈ refs ∧ ∃ n, u.node? ref = some (.passive n) ∧ e ∈ n.members) ↔
          w.visible ⟨.passiveEntity, e.id⟩ = .ok ref := by
  intro v es
  have h : v.Holds (history m ops) := holds_run m ops
  refine ⟨fun _ _ => SourceRange.locationId_eq_iff, fun e he f hf => h.same_group_iff he hf, ?_⟩
  intro op hop w
  have hvisible : ∀ e ∈ es, w.visible ⟨.passiveEntity, e.id⟩ = .ok (nodeOf passiveThreshold es e) :=
    fun e he => h.visible_read hids hop he
  refine ⟨fun e he => ?_, fun e he f hf => ?_, ?_⟩
  · rw [hvisible e he, ← crowded_iff]
    constructor
    · rintro ⟨n, hn⟩
      by_contra hc
      rw [nodeOf_of_not_crowded hc] at hn
      cases hn
    · intro hc
      exact ⟨_, congrArg _ (nodeOf_of_crowded hc)⟩
  · rw [hvisible e he, hvisible f hf, ← nodeOf_eq_iff hids he hf]
    constructor
    · rintro ⟨ref, hre, hrf⟩
      exact Except.ok.inj (hre.trans hrf.symm)
    · exact fun hnode => ⟨_, rfl, congrArg _ hnode.symm⟩
  · obtain ⟨u, refs, log, hlist, hat⟩ := (h.read hop).listed_at hids
    refine ⟨u, refs, log, hlist, fun e he ref => ?_⟩
    rw [hat e he ref, hvisible e he, Except.ok.injEq]

/-- Four passive entities of one place and another one whose place has nearly the same location id. -/
def colonRun : List Op :=
  let place : SourceRange := ⟨"a:1", 2, -3, 4⟩
  [.ingest ⟨[⟨1, "main", 0, none, true⟩], [⟨1, 0, place, 1⟩, ⟨2, 0, ⟨"a", 1, 2, -34⟩, 1⟩, ⟨3, 0, place, 1⟩,
    ⟨4, 0, place, 1⟩, ⟨5, 0, place, 1⟩], [], []⟩]

theorem passives_grouped_by_origin_colonRun :
    let m : MetaModel := ⟨Table.empty, Table.empty⟩
    let v := run colonRun (new m)
    let e : PassiveEntity := ⟨1, 0, ⟨"a:1", 2, -3, 4⟩, 1⟩
    let f : PassiveEntity := ⟨5, 0, ⟨"a:1", 2, -3, 4⟩, 1⟩
    (history m colonRun).passives.map PassiveEntity.id = [1, 2, 3, 4, 5] ∧
    (∃ g ∈ v.passives.groups.toList, e ∈ g.members ∧ f ∈ g.members) ∧
    (∃ ref, (Op.links.run v).view.visible ⟨.passiveEntity, 1⟩ = .ok ref ∧
      (Op.links.run v).view.visible ⟨.passiveEntity, 5⟩ = .ok ref) ∧
    ¬ ∃ ref, (Op.links.run v).view.visible ⟨.passiveEntity, 1⟩ = .ok ref ∧
      (Op.links.run v).view.visible ⟨.passiveEntity, 2⟩ = .ok ref := by
  intro m v e f
  have hids : (history m colonRun).passives.map PassiveEntity.id = [1, 2, 3, 4, 5] := by decide +kernel
  have he : e ∈ (history m colonRun).passives := by decide +kernel
  have hf : f ∈ (history m colonRun).passives := by decide +kernel
  have hother : ⟨2, 0, ⟨"a", 1, 2, -34⟩, 1⟩ ∈ (history m colonRun).passives := by decide +kernel
  have hcrowded : 3 < countAlike (history m colonRun).passives e := by decide +kernel
  obtain ⟨-, hgroups, hread⟩ := passives_grouped_by_origin m colonRun (by rw [hids]; decide)
  obtain ⟨-, htogether, -⟩ := hread .links rfl
  refine ⟨hids, (hgroups e he f hf).2 (by decide), (htogether e he f hf).2 (.inr ⟨hcrowded, by decide⟩), ?_⟩
  exact fun hsame => absurd ((htogether e he _ hother).1 hsame) (by decide +kernel)

end View

end TraceGraph
