import TraceGraph.Proofs.Counters
import TraceGraph.Proofs.LargestCounts
import TraceGraph.Proofs.Location
import TraceGraph.Proofs.Promotions

/-! What the counters count. Things and groups are counted by what was announced: distinct ids, distinct
names and distinct origins. Every announcement is a member of one group, whether or not its id came before.
Messages are counted by the operations. Only the count of promoted groups lags behind: it is told when nodes
or links are read, and in between there may be more crowded groups than promoted ones. -/

namespace TraceGraph

open Announcements Sequence Traced

/-! ### Distinct and frequent values -/

section Values
variable {β γ : Type} [DecidableEq β] [DecidableEq γ]

/-- The values that come more often than the limit. -/
def frequent (limit : Int) (bs : List β) : Finset β := bs.toFinset.filter fun b => limit < bs.count b

theorem Sequence.toFinset_eraseDups (bs : List β) : bs.eraseDups.toFinset = bs.toFinset := by
  ext b
  simp

theorem Sequence.length_eraseDups (bs : List β) : bs.eraseDups.length = bs.toFinset.card := by
  rw [← List.toFinset_card_of_nodup (nodup_eraseDups bs), toFinset_eraseDups]

theorem Sequence.countP_eraseDups (bs : List β) (test : β → Bool) :
    bs.eraseDups.countP test = (bs.toFinset.filter (test ·)).card := by
  rw [List.countP_eq_length_filter, ← List.toFinset_card_of_nodup ((nodup_eraseDups bs).filter _),
    List.toFinset_filter, toFinset_eraseDups]

theorem toFinset_map (f : β → γ) (bs : List β) : (bs.map f).toFinset = bs.toFinset.image f := by
  ext c
  simp

theorem card_map_of_injective {f : β → γ} (hf : Function.Injective f) (bs : List β) :
    (bs.map f).toFinset.card = bs.toFinset.card := by
  rw [toFinset_map, Finset.card_image_of_injective _ hf]

theorem card_frequent_map {f : β → γ} (hf : Function.Injective f) (limit : Int) (bs : List β) :
    (frequent limit (bs.map f)).card = (frequent limit bs).card := by
  rw [frequent, toFinset_map, Finset.filter_image, Finset.card_image_of_injective _ hf]
  simp only [List.count_map_of_injective bs f hf]
  rfl

end Values

/-! ### Announcements -/

section
variable {α : Type} [Traced α] {limit : Int} {as : List α}

namespace Announcements

theorem length_ids (as : List α) : (ids as).length = (as.map Traced.id).toFinset.card :=
  length_eraseDups _

theorem length_keys (as : List α) : (keys as).length = (as.map Traced.key).toFinset.card :=
  length_eraseDups _

theorem crowded_iff_count (limit : Int) (as : List α) (key : String) :
    Crowded limit as key ↔ limit < (as.map Traced.key).count key := by
  rw [Crowded, sharing, ← List.countP_eq_length_filter, List.count_eq_countP, List.countP_map]
  rfl

theorem countP_crowded (limit : Int) (as : List α) :
    (keys as).countP (Crowded limit as ·) = (frequent limit (as.map Traced.key)).card := by
  rw [keys, countP_eraseDups, frequent]
  simp only [decide_eq_true_eq, crowded_iff_count]

/-- Every announcement shares its key with itself, and has one key. -/
theorem sum_sharing (as : List α) : ((keys as).map fun key => (sharing as key).length).sum = as.length := by
  rw [← List.length_flatMap]
  exact (fibers_perm Traced.key (nodup_eraseDups _) as fun a ha => mem_keys.2 ⟨a, ha, rfl⟩).length_eq

end Announcements

namespace Population

variable {p : Population α}

theorem Holds.size_entry (h : p.Holds limit as) {e : String × Group α} (he : e ∈ p.groups.groups.entries) :
    e.2.size = (sharing as e.1).length :=
  (h.groups e.1 e.2 (Table.get?_of_mem he)).size_eq

/-- The members of all groups are as many as the announcements. -/
theorem Holds.sum_size (h : p.Holds limit as) : (p.groups.toList.map Group.size).sum = as.length := by
  have hsizes : p.groups.toList.map Group.size =
      p.groups.groups.keys.map fun key => (sharing as key).length := by
    rw [GroupTable.toList, Table.values, Table.keys, List.map_map, List.map_map]
    exact List.map_congr_left fun e he => h.size_entry he
  rw [hsizes, h.keys, sum_sharing]

theorem Holds.countP_isCrowded (h : p.Holds limit as) :
    p.groups.toList.countP p.groups.isCrowded = (frequent limit (as.map Traced.key)).card := by
  rw [← countP_crowded, ← h.keys, GroupTable.toList, Table.values, Table.keys, List.countP_map,
    List.countP_map]
  apply List.countP_congr
  intro e he
  simpa using h.isCrowded_iff (Table.get?_of_mem he)

/-- Only crowded groups are promoted. -/
theorem Holds.promotedCount_le (h : p.Holds limit as) :
    p.groups.promotedCount ≤ p.groups.toList.countP p.groups.isCrowded := by
  apply List.countP_mono_left
  intro g hg hp
  obtain ⟨e, he, rfl⟩ := List.mem_map.1 hg
  have hget := Table.get?_of_mem he
  exact (h.isCrowded_iff hget).2 ((h.groups e.1 e.2 hget).crowded hp)

end Population

omit [Traced α] in
theorem GroupTable.promotedCount_eq (t : GroupTable α) : t.promotedCount = t.promotedRefs.length := by
  rw [promotedCount, promotedRefs, List.length_map, List.countP_eq_length_filter]

end

/-! ### Messages -/

namespace History

variable {past : History}

/-- Each operation has two ends. -/
theorem Closed.length_ends (h : past.Closed) : past.ends.length = past.operations.length := by
  rw [History.ends, List.length_filterMap_eq_countP, List.countP_eq_length]
  intro x hx
  obtain ⟨ends, hends, -⟩ := h.ends x hx
  rw [hends, Option.isSome_some]

theorem size_messages (past : History) : past.messages.size = past.ends.toFinset.card := by
  have hkeys : past.messages.counts.keys.toFinset = past.ends.toFinset := by
    ext ⟨source, target⟩
    rw [List.mem_toFinset, List.mem_toFinset, messages, Tally.mem_keys_run]
    simp [Tally.ones, Tally.empty]
  have hnodup : past.messages.counts.keys.Nodup := past.messages.counts.nodup
  rw [Tally.size, Table.size_eq_length_keys, ← List.toFinset_card_of_nodup hnodup, hkeys]

end History

/-! ### Views -/

namespace View

variable {v : View} {past : History}

/-- The counters of a view are counts over the batches that it absorbed. -/
structure Counts (v : View) (past : History) : Prop where
  activities : v.stats.activities = (past.activities.map Activity.id).toFinset.card
  passiveEntities : v.stats.passiveEntities = (past.passives.map PassiveEntity.id).toFinset.card
  activityGroups : v.stats.activityGroups = (past.activities.map Activity.name).toFinset.card
  passiveEntityGroups : v.stats.passiveEntityGroups = (past.passives.map PassiveEntity.origin).toFinset.card
  messages : v.stats.messages = past.operations.length
  messagePairs : v.stats.messagePairs = past.ends.toFinset.card
  /-- Every operation has its ends among those counted. -/
  ends : past.ends.length = past.operations.length
  activityMembers : (v.activities.groups.toList.map Group.size).sum = past.activities.length
  passiveMembers : (v.passives.groups.toList.map Group.size).sum = past.passives.length

/-- How many groups are crowded. -/
def crowdedCount (v : View) : Nat :=
  v.activities.groups.toList.countP v.activities.groups.isCrowded +
    v.passives.groups.toList.countP v.passives.groups.isCrowded

theorem map_key_passives (es : List PassiveEntity) :
    es.map Traced.key = (es.map PassiveEntity.origin).map SourceRange.locationId := by
  rw [List.map_map]
  rfl

theorem Holds.counts (h : v.Holds past) : v.Counts past where
  activities := by
    rw [h.stats_eq, History.stats, length_ids]
    rfl
  passiveEntities := by
    rw [h.stats_eq, History.stats, length_ids past.passives]
    rfl
  activityGroups := by
    rw [h.stats_eq, History.stats, length_keys]
    rfl
  passiveEntityGroups := by
    rw [h.stats_eq, History.stats, length_keys past.passives, map_key_passives,
      card_map_of_injective SourceRange.locationId_injective]
  messages := by
    rw [h.stats_eq, History.stats, past.total_messages, h.closed.length_ends]
  messagePairs := by
    rw [h.stats_eq, History.stats, past.size_messages]
  ends := h.closed.length_ends
  activityMembers := h.activities.sum_size
  passiveMembers := h.passives.sum_size

theorem Holds.crowdedCount_eq (h : v.Holds past) :
    v.crowdedCount = (frequent 4 (past.activities.map Activity.name)).card +
      (frequent 3 (past.passives.map PassiveEntity.origin)).card := by
  rw [crowdedCount, h.activities.countP_isCrowded, h.passives.countP_isCrowded, map_key_passives,
    card_frequent_map SourceRange.locationId_injective]
  rfl

theorem promotedGroups_eq (v : View) : v.stats.promotedGroups = v.promotedRefs.length := by
  rw [stats, GroupTable.promotedCount_eq, GroupTable.promotedCount_eq, promotedRefs, List.length_append]

theorem promotedGroups_absorb (v : View) (b : Batch) :
    (v.absorb b).view.stats.promotedGroups = v.stats.promotedGroups := by
  rw [promotedGroups_eq, promotedGroups_eq, promotedRefs_absorb]

theorem Holds.promotedGroups_le (h : v.Holds past) : v.stats.promotedGroups ≤ v.crowdedCount :=
  Nat.add_le_add h.activities.promotedCount_le h.passives.promotedCount_le

/-- Once links are read, every crowded group is promoted. -/
theorem Holds.promotedGroups_settled (h : v.Holds past) : v.settled.stats.promotedGroups = v.crowdedCount := by
  rw [h.stats_settled, History.stats, countP_crowded, countP_crowded, ← h.activities.countP_isCrowded,
    ← h.passives.countP_isCrowded]
  rfl

/-- In every run the counters of a view count what it absorbed since it was last reset. Absorbing a batch
or refusing it promotes no group, and only crowded groups are ever promoted: the activities of a name that
was announced more than four times, and the passive entities of an origin that was announced more than
three times. Once links are read, they all are. -/
theorem stats_count_history (m : Option MetaModel) (ops : List Op) :
    let v := run ops (new m)
    let past := history m ops
    v.Counts past ∧
      v.crowdedCount = (frequent 4 (past.activities.map Activity.name)).card +
        (frequent 3 (past.passives.map PassiveEntity.origin)).card ∧
      (∀ b, (v.absorb b).view.stats.promotedGroups = v.stats.promotedGroups) ∧
      v.stats.promotedGroups ≤ v.crowdedCount ∧
      ∃ w ls log, v.links = .ok (w, ls, log) ∧ w.stats.promotedGroups = v.crowdedCount := by
  intro v past
  have h := holds_run m ops
  obtain ⟨log, hlinks⟩ := h.links
  refine ⟨h.counts, h.crowdedCount_eq, v.promotedGroups_absorb, h.promotedGroups_le, ?_⟩
  exact ⟨_, _, log, hlinks, h.promotedGroups_settled⟩

end View

end TraceGraph
