import TraceGraph.Proofs.Statistics

/-! The order inside a batch. All of a batch is checked before any of it is taken in, so a creator or a
counterpart may come after what refers to it, and whether the batch is accepted does not depend on what
comes first. The groups that it adds are numbered as their keys come. As long as no id comes twice in it,
nothing else depends on the order but the order of nodes, members and links, and where nodes are put. -/

namespace TraceGraph

open Announcements Sequence

/-! ### Batches in another order -/

/-- The same announcements and operations, those of each list in some order. -/
structure Batch.Rearranges (b c : Batch) : Prop where
  activities : b.activities.Perm c.activities
  passiveEntities : b.passiveEntities.Perm c.passiveEntities
  sends : b.sends.Perm c.sends
  receives : b.receives.Perm c.receives

namespace Batch.Rearranges

variable {b c : Batch} (h : b.Rearranges c)
include h

theorem symm : c.Rearranges b :=
  ⟨h.activities.symm, h.passiveEntities.symm, h.sends.symm, h.receives.symm⟩

theorem references_perm : b.references.Perm c.references := by
  have hcreators := (h.activities.filterMap Activity.creator).map Reference.actor
  have hmakers := h.passiveEntities.map fun e => Reference.actor e.creator
  exact ((hcreators.append hmakers).append (h.sends.flatMap_right _)).append (h.receives.flatMap_right _)

theorem ends_perm (m : MetaModel) : (b.ends m).Perm (c.ends m) := by
  have hoperations : b.operations.Perm c.operations := (h.sends.map _).append (h.receives.map _)
  exact hoperations.filterMap _

theorem known {v : View} {e : EntityRef} (he : v.Known b e) : v.Known c e := by
  obtain ⟨kind, id⟩ := e
  cases kind with
  | activity => exact he.imp_right fun ⟨a, ha, hid⟩ => ⟨a, h.activities.mem_iff.1 ha, hid⟩
  | passiveEntity => exact he.imp_right fun ⟨a, ha, hid⟩ => ⟨a, h.passiveEntities.mem_iff.1 ha, hid⟩
  | dynamicScope => exact he

theorem resolves {v : View} {m : MetaModel} (hb : ∀ r ∈ b.references, r.Resolves v m b) :
    ∀ r ∈ c.references, r.Resolves v m c := by
  intro r hr
  exact (hb r (h.references_perm.mem_iff.2 hr)).mono fun _ he => h.known he

theorem accepted {v : View} (hok : (v.absorb b).answer = .ok ()) : (v.absorb c).answer = .ok () := by
  obtain ⟨m, hm, hresolves⟩ := (View.absorb_eq_ok_iff v b).1 hok
  exact (View.absorb_eq_ok_iff v c).2 ⟨m, hm, h.resolves hresolves⟩

/-- As long as no id comes twice in a batch, its announcements may come in any order. -/
theorem reordered (past : History) (m : MetaModel) (hactivities : (b.activities.map Activity.id).Nodup)
    (hpassives : (b.passiveEntities.map PassiveEntity.id).Nodup) :
    History.Reordered (past ++ [⟨m, b⟩]) (past ++ [⟨m, c⟩]) where
  activities := by
    rw [History.activities_snoc, History.activities_snoc]
    exact .append past.activities h.activities hactivities
  passives := by
    rw [History.passives_snoc, History.passives_snoc]
    exact .append past.passives h.passiveEntities hpassives
  ends := by
    rw [History.ends_snoc, History.ends_snoc]
    exact (h.ends_perm m).append_left _

end Batch.Rearranges

/-- What was announced before keeps the numbers of its groups. -/
theorem Announcements.renumber_old {α : Type} [Traced α] {as bs cs : List α} {ρ : Equiv.Perm ℕ}
    (hρ : ∀ key ∈ keys (as ++ bs), ρ (number (as ++ bs) key) = number (as ++ cs) key) {n : ℕ}
    (hn : n < (keys as).length) : ρ n = n := by
  have hkey : (keys as)[n] ∈ keys as := List.getElem_mem hn
  have hnumber : number as (keys as)[n] = n := (nodup_eraseDups _).idxOf_getElem n hn
  have hnew : (keys as)[n] ∈ keys (as ++ bs) := by
    obtain ⟨a, ha, he⟩ := mem_keys.1 hkey
    exact mem_keys.2 ⟨a, List.mem_append_left bs ha, he⟩
  have hsame := hρ _ hnew
  rwa [number_append hkey, number_append hkey, hnumber] at hsame

/-! ### Views that show the same graph -/

namespace View

variable {v w : View} {past past' : History} {ρ : Kind → Equiv.Perm ℕ}

/-- The counters are the same, and a snapshot shows the same nodes, links and maxima but for the numbers of
groups, orders and places. -/
structure SameGraph (ρ : Kind → Equiv.Perm ℕ) (v w : View) : Prop where
  stats : v.stats = w.stats
  maxSends : v.maxSends = w.maxSends
  maxLink : v.maxLink = w.maxLink
  snapshot : ∃ v' w' s s' log log', v.snapshot = .ok (v', s, log) ∧ w.snapshot = .ok (w', s', log') ∧
    s.Renumbered ρ s' ∧ v'.stats = w'.stats

/-- Views of histories in another order show the same graph if the rest that they show is the same. -/
theorem Holds.sameGraph (hv : v.Holds past) (hw : w.Holds past') (h : past.Renumbered ρ past')
    (hpromoted : v.stats.promotedGroups = w.stats.promotedGroups)
    (hvsends : v.maxSends = v.messages.max) (hwsends : w.maxSends = w.messages.max)
    (hlink : v.maxLink = w.maxLink) : SameGraph ρ v w := by
  have hsends : v.maxSends = w.maxSends := by
    rw [hvsends, hwsends, hv.messages, hw.messages]
    exact Tally.max_eq_of_perm h.messages
  refine ⟨?_, hsends, hlink, ?_⟩
  · rw [hv.stats_eq, hw.stats_eq, h.stats, hpromoted]
  · obtain ⟨s, s', log, log', hs, hs', hshown⟩ := hv.snapshot_renumbered hw h hsends
    refine ⟨_, _, s, s', log, log', hs, hs', hshown, ?_⟩
    exact hv.stats_settled.trans (h.stats.trans hw.stats_settled.symm)

/-- The order inside a batch does not decide whether it is accepted. Nor, as long as no id comes twice in
it, what the view shows afterwards, but for the numbers of the groups that it adds, orders and places. -/
theorem absorb_rearranged (m : Option MetaModel) (ops : List Op) {b c : Batch} (h : b.Rearranges c) :
    let v := run ops (new m)
    ((v.absorb b).answer = .ok () ↔ (v.absorb c).answer = .ok ()) ∧
      ((v.absorb b).answer = .ok () → (b.activities.map Activity.id).Nodup →
        (b.passiveEntities.map PassiveEntity.id).Nodup →
        ∃ ρ, (∀ n < v.activities.groups.size, ρ .activity n = n) ∧
          (∀ n < v.passives.groups.size, ρ .passiveEntity n = n) ∧
          SameGraph ρ (v.absorb b).view (v.absorb c).view) := by
  have hv := holds_run m ops
  have hsends := maxSends_run m ops
  generalize run ops (new m) = v at hv hsends ⊢
  generalize history m ops = past at hv
  refine ⟨⟨h.accepted, h.symm.accepted⟩, fun hok hactivities hpassives => ?_⟩
  obtain ⟨model, hmodel, hb⟩ := (absorb_eq_ok_iff v b).1 hok
  have hc := h.resolves hb
  obtain ⟨ρ, hρ⟩ := (h.reordered past model hactivities hpassives).exists_renumbering
  have hactivityNumbers := hρ.activityNumbers
  have hpassiveNumbers := hρ.passiveNumbers
  rw [History.activities_snoc, History.activities_snoc] at hactivityNumbers
  rw [History.passives_snoc, History.passives_snoc] at hpassiveNumbers
  refine ⟨ρ, fun n hn => ?_, fun n hn => ?_, ?_⟩
  · rw [hv.activities.groups_size] at hn
    exact renumber_old hactivityNumbers hn
  · rw [hv.passives.groups_size] at hn
    exact renumber_old hpassiveNumbers hn
  · have hleft := hv.taken hb
    have hright := hv.taken hc
    rw [← (absorb_of_resolves hmodel hb).2] at hleft
    rw [← (absorb_of_resolves hmodel hc).2] at hright
    refine hleft.sameGraph hright hρ ?_ (hv.maxSends_absorb hsends b) (hv.maxSends_absorb hsends c) ?_
    · rw [promotedGroups_absorb, promotedGroups_absorb]
    · rw [absorb_maxLink, absorb_maxLink]

/-- A batch whose creators and targets come late, with three new names and one that is crowded. -/
def backwards : Batch :=
  ⟨[⟨10, "loader", 0, some 12, true⟩, ⟨11, "worker", 0, some 10, true⟩, ⟨12, "main", 0, some 1, true⟩],
    [⟨20, 0, ⟨"a", 1, 2, 3⟩, 10⟩, ⟨21, 0, ⟨"b", 1, 2, 3⟩, 11⟩], [⟨0, 10, 12⟩, ⟨0, 11, 1⟩], [⟨1, 12, 21⟩]⟩

def forwards : Batch :=
  ⟨backwards.activities.reverse, backwards.passiveEntities.reverse, backwards.sends.reverse,
    backwards.receives⟩

theorem absorb_rearranged_backwards :
    let m : MetaModel := ⟨Table.ofList [(0, .activity)], Table.ofList [(1, .passiveEntity)]⟩
    let v := run crowdRun (new m)
    (v.absorb forwards).answer = .ok () ∧
      ∃ ρ, ρ .activity 0 = 0 ∧ SameGraph ρ (v.absorb backwards).view (v.absorb forwards).view := by
  intro m v
  have hbackwards : (v.absorb backwards).answer = .ok () := by decide +kernel
  have hgroup : 0 < (run crowdRun (new m)).activities.groups.size := by decide +kernel
  obtain ⟨hiff, hsame⟩ := absorb_rearranged m crowdRun (b := backwards) (c := forwards)
    ⟨(List.reverse_perm _).symm, (List.reverse_perm _).symm, (List.reverse_perm _).symm, .refl _⟩
  obtain ⟨ρ, hold, -, hgraph⟩ := hsame hbackwards (by decide) (by decide)
  exact ⟨hiff.1 hbackwards, ρ, hold 0 hgroup, hgraph⟩

end View

end TraceGraph
