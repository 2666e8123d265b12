import TraceGraph.Group
import TraceGraph.Proofs.Table

/-! Promotion of groups. Promoting keys one after the other is one pass over the groups: each group of a
promoted key that has no node yet gets one, at the place given by its size and the number of groups, and
all else stays. So it does not matter in which order or how often keys are promoted. -/

namespace TraceGraph

variable {α : Type}

namespace Group

@[simp] theorem promote_id (g : Group α) (n : Int) : (g.promote n).id = g.id := by
  unfold promote
  split <;> rfl

@[simp] theorem promote_members (g : Group α) (n : Int) : (g.promote n).members = g.members := by
  unfold promote
  split <;> rfl

@[simp] theorem promote_size (g : Group α) (n : Int) : (g.promote n).size = g.size := by simp [size]

@[simp] theorem isPromoted_promote (g : Group α) (n : Int) : (g.promote n).isPromoted = true := by
  unfold promote isPromoted
  split
  · next h => rw [h]; rfl
  · rfl

theorem promote_of_isPromoted {g : Group α} (h : g.isPromoted = true) (n : Int) : g.promote n = g := by
  obtain ⟨p, hp⟩ := Option.isSome_iff_exists.1 h
  simp [promote, hp]

theorem promote_promote (g : Group α) (n m : Int) : (g.promote n).promote m = g.promote n :=
  promote_of_isPromoted (isPromoted_promote g n) m

@[simp] theorem isPromoted_set (g : Group α) (axis : Axis) (c : Number) :
    (g.set axis c).isPromoted = g.isPromoted := by
  simp [set, isPromoted]

end Group

namespace GroupTable

/-- The table with each group changed, which may depend on its key. -/
def mapGroups (f : String → Group α → Group α) (t : GroupTable α) : GroupTable α :=
  { t with groups := t.groups.mapValues f }

@[simp] theorem mapGroups_size (f : String → Group α → Group α) (t : GroupTable α) :
    (t.mapGroups f).size = t.size := Table.size_mapValues f t.groups

@[simp] theorem mapGroups_keys (f : String → Group α → Group α) (t : GroupTable α) :
    (t.mapGroups f).groups.keys = t.groups.keys := Table.keys_mapValues f t.groups

theorem get?_mapGroups (f : String → Group α → Group α) (t : GroupTable α) (key : String) :
    (t.mapGroups f).get? key = (t.get? key).map (f key) := Table.get?_mapValues f t.groups key

theorem mapGroups_mapGroups (f g : String → Group α → Group α) (t : GroupTable α) :
    (t.mapGroups f).mapGroups g = t.mapGroups fun key x => g key (f key x) := by
  simp [mapGroups, Table.mapValues_mapValues]

theorem mapGroups_congr {f g : String → Group α → Group α} {t : GroupTable α}
    (h : ∀ key x, t.get? key = some x → f key x = g key x) : t.mapGroups f = t.mapGroups g := by
  unfold mapGroups
  rw [Table.mapValues_congr fun e he => h e.1 e.2 (Table.get?_of_mem he)]

theorem mapGroups_eq_self {f : String → Group α → Group α} {t : GroupTable α}
    (h : ∀ key x, t.get? key = some x → f key x = x) : t.mapGroups f = t := by
  unfold mapGroups
  rw [Table.mapValues_eq_self fun e he => h e.1 e.2 (Table.get?_of_mem he)]

theorem modify_eq_mapGroups (t : GroupTable α) (key : String) (f : Group α → Group α) :
    t.modify key f = t.mapGroups fun k g => if k = key then f g else g := by
  unfold modify mapGroups
  rw [Table.modify_eq_mapValues]

theorem get_of_get? {t : GroupTable α} {key : String} {g : Group α} (h : t.get? key = some g) :
    t.get key = .ok g := by
  unfold get
  rw [h]

theorem get?_of_get {t : GroupTable α} {key : String} {g : Group α} (h : t.get key = .ok g) :
    t.get? key = some g := by
  unfold get at h
  cases hg : t.get? key with
  | none =>
    rw [hg] at h
    cases h
  | some x =>
    rw [hg] at h
    rw [Except.ok.inj h]

/-! ### Promotion -/

/-- The table after the groups of the given keys were promoted. -/
def promotedAt (keys : List String) (t : GroupTable α) : GroupTable α :=
  t.mapGroups fun key g => if key ∈ keys then g.promote t.size else g

theorem promote_eq {t : GroupTable α} (hkind : t.kind ≠ .dynamicScope) {key : String} {g : Group α}
    (hg : t.get? key = some g) (n : Int) :
    ∃ log, t.promote key n = .ok (t.modify key (·.promote n), log) := by
  simp only [promote, get_of_get? hg, bind, Except.bind, pure, Except.pure]
  by_cases hp : g.isPromoted = true
  · refine ⟨[], ?_⟩
    have hself : t.modify key (·.promote n) = t := by
      unfold modify
      rw [Table.modify_eq_self]
      intro x hx
      obtain rfl : g = x := Option.some.inj (hg.symm.trans hx)
      exact Group.promote_of_isPromoted hp n
    rw [if_pos hp, hself]
  · exact ⟨[promotionRecord t.kind g], by rw [if_neg hp, if_neg hkind]⟩

theorem promoteKeys_eq {t : GroupTable α} (hkind : t.kind ≠ .dynamicScope) (keys : List String)
    (hkeys : ∀ key ∈ keys, key ∈ t.groups.keys) :
    ∃ log, t.promoteKeys keys = .ok (t.promotedAt keys, log) := by
  induction keys generalizing t with
  | nil =>
    refine ⟨[], ?_⟩
    rw [promoteKeys, promotedAt, mapGroups_eq_self]
    intro key x _
    simp
  | cons key keys ih =>
    obtain ⟨g, hg⟩ := Table.get?_eq_some_of_mem_keys (hkeys key (by simp))
    obtain ⟨log, hlog⟩ := promote_eq hkind hg t.size
    obtain ⟨more, hmore⟩ := ih (t := t.modify key (·.promote t.size)) hkind
      (by intro k hk; simpa [modify] using hkeys k (by simp [hk]))
    refine ⟨log ++ more, ?_⟩
    simp only [promoteKeys, hlog, bind, Except.bind, hmore, pure, Except.pure]
    congr 2
    -- the number of groups is the same for each promotion, so the promotions are one pass
    rw [promotedAt, modify_eq_mapGroups, mapGroups_mapGroups, mapGroups_size, promotedAt]
    apply mapGroups_congr
    intro k x _
    by_cases hk : k = key
    · subst hk
      by_cases hmem : k ∈ keys <;> simp [hmem, Group.promote_promote]
    · simp [hk]

theorem mem_crowdedKeys {t : GroupTable α} {key : String} {g : Group α} (hg : t.get? key = some g) :
    key ∈ t.crowdedKeys ↔ t.isCrowded g = true := by
  have hmem : (key, g) ∈ t.groups.entries := (Table.get?_eq_some_iff _ _ _).1 hg
  unfold crowdedKeys
  rw [List.mem_map]
  constructor
  · rintro ⟨e, he, rfl⟩
    rw [List.mem_filter] at he
    obtain rfl : g = e.2 := Option.some.inj (hg.symm.trans (Table.get?_of_mem he.1))
    exact he.2
  · intro hc
    exact ⟨(key, g), List.mem_filter.2 ⟨hmem, hc⟩, rfl⟩

/-- The table with every crowded group promoted. -/
def settled (t : GroupTable α) : GroupTable α :=
  t.mapGroups fun _ g => if t.isCrowded g then g.promote t.size else g

theorem promoteAll_eq {t : GroupTable α} (hkind : t.kind ≠ .dynamicScope) :
    ∃ log, t.promoteAll = .ok (t.settled, log) := by
  obtain ⟨log, hlog⟩ := promoteKeys_eq hkind t.crowdedKeys (by
    intro key hkey
    obtain ⟨e, he, rfl⟩ := List.mem_map.1 hkey
    exact List.mem_map_of_mem (List.mem_of_mem_filter he))
  refine ⟨log, ?_⟩
  rw [promoteAll, hlog]
  congr 2
  apply mapGroups_congr
  intro key g hg
  simp only [mem_crowdedKeys hg]

end GroupTable

end TraceGraph
