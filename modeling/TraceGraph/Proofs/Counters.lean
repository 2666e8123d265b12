import TraceGraph.Proofs.Renumbering

/-! The counters of a view with every crowded group promoted. They are counts over its history: the ids
and keys that were announced, the keys that are crowded, the pairs that messages went between and the
messages. So they do not depend on the order in which things came. -/

namespace TraceGraph

open Announcements

namespace Population

variable {α : Type} [Traced α] {limit : Int} {as : List α} {p : Population α}

theorem Holds.table_size (h : p.Holds limit as) : p.table.size = (Announcements.ids as).length := by
  rw [Table.size_eq_length_keys, h.ids]

/-- With every crowded group promoted, the groups with a node are those of crowded keys. -/
theorem Holds.promotedCount_settled (h : p.Holds limit as) :
    p.settled.groups.promotedCount = (Announcements.keys as).countP (Crowded limit as ·) := by
  rw [GroupTable.promotedCount, GroupTable.toList, Table.values, List.countP_map, ← h.settled.keys,
    Table.keys, List.countP_map]
  apply List.countP_congr
  intro e he
  simp only [Function.comp, decide_eq_true_eq]
  exact h.isPromoted_settled (Table.get?_of_mem he)

end Population

theorem Announcements.Reordered.countP_crowded {α : Type} [Traced α] {as bs : List α}
    (h : Reordered as bs) (limit : Int) :
    (keys as).countP (Crowded limit as ·) = (keys bs).countP (Crowded limit bs ·) := by
  simp only [h.crowded_iff limit]
  exact h.keys_perm.countP_eq _

namespace History

def stats (past : History) : Stats :=
  { activities := (ids past.activities).length
    passiveEntities := (ids past.passives).length
    activityGroups := (keys past.activities).length
    passiveEntityGroups := (keys past.passives).length
    promotedGroups := (keys past.activities).countP (Crowded activityThreshold past.activities ·) +
      (keys past.passives).countP (Crowded passiveThreshold past.passives ·)
    messagePairs := past.messages.size
    messages := past.messages.total }

theorem Renumbered.stats {past past' : History} {ρ : Kind → Equiv.Perm ℕ} (h : Renumbered ρ past past') :
    past.stats = past'.stats := by
  rw [History.stats, History.stats, h.activities.ids_perm.length_eq, h.passives.ids_perm.length_eq,
    h.activities.keys_perm.length_eq, h.passives.keys_perm.length_eq, h.activities.countP_crowded,
    h.passives.countP_crowded, Tally.size_eq_of_perm h.messages, Tally.total_eq_of_perm h.messages]

end History

namespace View

variable {v : View} {past : History}

/-- All counters but that of promoted groups are told by the history. -/
theorem Holds.stats_eq (h : v.Holds past) :
    v.stats = { past.stats with promotedGroups := v.stats.promotedGroups } := by
  rw [View.stats, History.stats, h.activities.table_size, h.passives.table_size, h.activities.groups_size,
    h.passives.groups_size, h.messages]
  rfl

theorem Holds.stats_settled (h : v.Holds past) : v.settled.stats = past.stats := by
  have hpromoted : v.settled.stats.promotedGroups = past.stats.promotedGroups :=
    congrArg₂ (· + ·) h.activities.promotedCount_settled h.passives.promotedCount_settled
  rw [h.settled.stats_eq, hpromoted]

end View

end TraceGraph
