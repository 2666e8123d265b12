import TraceGraph.Proofs.Assignment

/-! The log of promotions. A record is written when a group gets its node and at no other time: whatever
an operation does, the groups that have a node after it are those that had one before and those that it
wrote a record of. -/

namespace TraceGraph

open Sequence Traced

/-- What is written when a node of so many members takes the place of a group. -/
def NodeRef.promotionRecord (ref : NodeRef) (size : Nat) : Log.Record :=
  { level := Log.Level.debug
    logger := "sysview.view.groups"
    message := s!"Group promoted: {ref.dataId} with {size} members"
    context := none }

/-- The records of promotions. -/
def promotionsIn (log : List Log.Record) : List Log.Record := log.filter (·.logger = "sysview.view.groups")

theorem promotionsIn_append (log more : List Log.Record) :
    promotionsIn (log ++ more) = promotionsIn log ++ promotionsIn more := List.filter_append _ _

/-- The groups that have a node, before and after, and what was written in between. -/
def Promotes (refs refs' : List NodeRef) (log : List Log.Record) : Prop :=
  ∃ ps : List (NodeRef × Nat), promotionsIn log = ps.map (fun p => p.1.promotionRecord p.2) ∧
    refs'.Perm (refs ++ ps.map Prod.fst)

namespace Promotes

variable {refs refs' refs'' others others' : List NodeRef} {log more : List Log.Record}

theorem refl (refs : List NodeRef) : Promotes refs refs [] := ⟨[], rfl, by simp⟩

theorem of_quiet (refs : List NodeRef) (h : promotionsIn log = []) : Promotes refs refs log :=
  ⟨[], h, by simp⟩

theorem trans (h : Promotes refs refs' log) (h' : Promotes refs' refs'' more) :
    Promotes refs refs'' (log ++ more) := by
  obtain ⟨ps, hlog, hperm⟩ := h
  obtain ⟨qs, hmore, hperm'⟩ := h'
  refine ⟨ps ++ qs, by rw [promotionsIn_append, hlog, hmore, List.map_append], ?_⟩
  rw [List.map_append, ← List.append_assoc]
  exact hperm'.trans (hperm.append_right _)

theorem append_right (h : Promotes refs refs' log) (others : List NodeRef) :
    Promotes (refs ++ others) (refs' ++ others) log := by
  obtain ⟨ps, hlog, hperm⟩ := h
  refine ⟨ps, hlog, (hperm.append_right others).trans ?_⟩
  rw [List.append_assoc, List.append_assoc]
  exact List.perm_append_comm.append_left refs

theorem append_left (h : Promotes refs refs' log) (others : List NodeRef) :
    Promotes (others ++ refs) (others ++ refs') log := by
  obtain ⟨ps, hlog, hperm⟩ := h
  refine ⟨ps, hlog, ?_⟩
  rw [List.append_assoc]
  exact hperm.append_left others

end Promotes

/-! ### Groups -/

namespace GroupTable

variable {α : Type} {t t' : GroupTable α} {log : List Log.Record}

/-- The nodes of the groups that have one. -/
def promotedRefs (t : GroupTable α) : List NodeRef :=
  (t.toList.filter Group.isPromoted).map fun g => .group t.kind g.id

theorem promotedRefs_eq (t : GroupTable α) : t.promotedRefs =
    (t.groups.entries.filter fun e => e.2.isPromoted).map fun e => .group t.kind e.2.id := by
  rw [promotedRefs, toList, Table.values, List.filter_map, List.map_map]
  rfl

/-- Changes that keep number and node of each group keep the groups that have a node. -/
theorem promotedRefs_mapGroups {f : String → Group α → Group α}
    (h : ∀ key g, (f key g).id = g.id ∧ (f key g).isPromoted = g.isPromoted) :
    (t.mapGroups f).promotedRefs = t.promotedRefs := by
  rw [promotedRefs_eq, promotedRefs_eq, mapGroups, Table.mapValues, List.filter_map, List.map_map]
  simp only [Function.comp_def, h]

theorem promotedRefs_add (t : GroupTable α) (key : String) (a : α) :
    (t.add key a).promotedRefs = t.promotedRefs := by
  rw [promotedRefs_eq, promotedRefs_eq, add]
  cases hg : t.get? key with
  | none =>
    have hkey : key ∉ t.groups.keys := (Table.get?_eq_none_iff _ _).1 hg
    have hnew : (t.grown key a).isPromoted = false := by
      rw [grown, hg]
      rfl
    simp only [Table.entries_set_of_not_mem hkey, List.filter_append, List.filter_cons, hnew]
    simp
  | some g =>
    obtain ⟨before, after, hsplit, hset⟩ := Table.set_split hg (t.grown key a)
    have hold : (t.grown key a).isPromoted = g.isPromoted ∧ (t.grown key a).id = g.id := by
      rw [grown, hg]
      exact ⟨rfl, rfl⟩
    simp only [hset, hsplit, List.filter_append, List.filter_cons, hold.1]
    split <;> simp [hold.2]

/-- A group that gets its node is one more group with a node. -/
theorem promotedRefs_modify {key : String} {g : Group α} (hg : t.get? key = some g)
    (hp : g.isPromoted = false) (n : Int) :
    (t.modify key (·.promote n)).promotedRefs.Perm (t.promotedRefs ++ [.group t.kind g.id]) := by
  obtain ⟨before, after, hsplit, hset⟩ := Table.set_split hg (g.promote n)
  rw [promotedRefs_eq, promotedRefs_eq, modify, Table.modify_eq_set hg]
  simp only [hset, hsplit, List.filter_append, List.filter_cons, hp, Group.isPromoted_promote,
    List.map_append, List.map_cons, Group.promote_id, if_true, Bool.false_eq_true, if_false]
  exact List.perm_middle.trans (List.perm_append_singleton _ _).symm

theorem promote_promotes {key : String} {n : Int} (h : t.promote key n = .ok (t', log)) :
    Promotes t.promotedRefs t'.promotedRefs log := by
  obtain ⟨g, hget, h⟩ := bind_eq_ok h
  have hg := get?_of_get hget
  split at h
  · cases h
    exact .refl _
  · next hp =>
    split at h
    · cases h
    · cases h
      exact ⟨[(.group t.kind g.id, g.size)], rfl, promotedRefs_modify hg (Bool.eq_false_iff.2 hp) n⟩

theorem promoteKeys_promotes {keys : List String} (h : t.promoteKeys keys = .ok (t', log)) :
    Promotes t.promotedRefs t'.promotedRefs log := by
  induction keys generalizing t log with
  | nil =>
    cases h
    exact .refl _
  | cons key keys ih =>
    obtain ⟨r, hkey, h⟩ := bind_eq_ok h
    obtain ⟨r', hkeys, h⟩ := bind_eq_ok h
    cases h
    exact (promote_promotes hkey).trans (ih hkeys)

end GroupTable

/-! ### Populations -/

namespace Population

variable {α : Type} [Traced α] {limit : Int} {as : List α} {p p' : Population α} {log : List Log.Record}

theorem Holds.kind_of_mem_promotedRefs (h : p.Holds limit as) {ref : NodeRef}
    (href : ref ∈ p.groups.promotedRefs) : ref.kind = Traced.kind α := by
  obtain ⟨g, -, rfl⟩ := List.mem_map.1 href
  exact h.kind

/-- Groups with a node have different nodes. -/
theorem Holds.nodup_promotedRefs (h : p.Holds limit as) : p.groups.promotedRefs.Nodup := by
  rw [GroupTable.promotedRefs_eq]
  refine List.Nodup.map_on ?_ (p.groups.groups.nodup.of_map.filter _)
  intro e he e' he' href
  have hget := Table.get?_of_mem (List.mem_of_mem_filter he)
  have hget' := Table.get?_of_mem (List.mem_of_mem_filter he')
  have hid : e.2.id = e'.2.id := (NodeRef.group.inj href).2
  rw [(h.group_number hget).1, (h.group_number hget').1] at hid
  have hkey : e.1 = e'.1 := Announcements.number_inj (h.mem_keys_of_get? hget) hid
  rw [hkey] at hget
  exact Prod.ext hkey (Option.some.inj (hget.symm.trans hget'))

theorem promotedRefs_announceAll (as : List α) (p : Population α) :
    (announceAll as p).groups.promotedRefs = p.groups.promotedRefs := by
  induction as generalizing p with
  | nil => rfl
  | cons a as ih => rw [announceAll_cons, ih, announce, GroupTable.promotedRefs_add]

theorem list_promotes {refs : List NodeRef} (h : p.list = .ok (p', refs, log)) :
    Promotes p.groups.promotedRefs p'.groups.promotedRefs log := by
  obtain ⟨refs', -, h⟩ := bind_eq_ok h
  obtain ⟨r, hkeys, h⟩ := bind_eq_ok h
  cases h
  exact GroupTable.promoteKeys_promotes hkeys

omit [Traced α] in
theorem promoteAll_promotes (h : p.promoteAll = .ok (p', log)) :
    Promotes p.groups.promotedRefs p'.groups.promotedRefs log := by
  obtain ⟨r, hkeys, h⟩ := bind_eq_ok h
  cases h
  exact GroupTable.promoteKeys_promotes hkeys

omit [Traced α] in
theorem promotedRefs_assignGroup (p : Population α) (id : Nat) (axis : Axis) (c : Number) :
    (p.assignGroup id axis c).groups.promotedRefs = p.groups.promotedRefs := by
  unfold assignGroup
  split
  · rw [GroupTable.modify_eq_mapGroups]
    apply GroupTable.promotedRefs_mapGroups
    intro key g
    split
    · exact ⟨rfl, Group.isPromoted_set g axis c⟩
    · exact ⟨rfl, rfl⟩
  · rfl

theorem Flagged.promotedRefs {p q : Population Activity} (h : Flagged p q) :
    q.groups.promotedRefs = p.groups.promotedRefs := by
  obtain ⟨f, g, rfl, -, hg⟩ := h
  apply GroupTable.promotedRefs_mapGroups
  intro key x
  obtain ⟨hid, -, hplace⟩ := hg key x
  exact ⟨hid, by rw [Group.isPromoted, Group.isPromoted, hplace]⟩

end Population

/-! ### Views -/

namespace View

variable {v w : View} {log : List Log.Record}

/-- The nodes of the groups of both kinds that have one. -/
def promotedRefs (v : View) : List NodeRef :=
  v.activities.groups.promotedRefs ++ v.passives.groups.promotedRefs

theorem listActivities_promotes {refs : List NodeRef} (h : v.listActivities = .ok (w, refs, log)) :
    Promotes v.promotedRefs w.promotedRefs log := by
  obtain ⟨r, hlist, h⟩ := bind_eq_ok h
  cases h
  exact (Population.list_promotes hlist).append_right _

theorem listPassives_promotes {refs : List NodeRef} (h : v.listPassives = .ok (w, refs, log)) :
    Promotes v.promotedRefs w.promotedRefs log := by
  obtain ⟨r, hlist, h⟩ := bind_eq_ok h
  cases h
  exact (Population.list_promotes hlist).append_left _

theorem find_promotes {dataId : String} {ref : Option NodeRef} (h : v.find dataId = .ok (w, ref, log)) :
    Promotes v.promotedRefs w.promotedRefs log := by
  obtain ⟨r, hactivities, h⟩ := bind_eq_ok h
  obtain ⟨r', hpassives, h⟩ := bind_eq_ok h
  cases h
  exact (listActivities_promotes hactivities).trans (listPassives_promotes hpassives)

theorem promoteAll_promotes (h : v.promoteAll = .ok (w, log)) :
    Promotes v.promotedRefs w.promotedRefs log := by
  obtain ⟨r, hactivities, h⟩ := bind_eq_ok h
  obtain ⟨r', hpassives, h⟩ := bind_eq_ok h
  cases h
  exact ((Population.promoteAll_promotes hactivities).append_right _).trans
    ((Population.promoteAll_promotes hpassives).append_left _)

theorem links_promotes {ls : List Link} (h : v.links = .ok (w, ls, log)) :
    Promotes v.promotedRefs w.promotedRefs log := by
  obtain ⟨r, hall, h⟩ := bind_eq_ok h
  obtain ⟨messages, -, h⟩ := bind_eq_ok h
  obtain ⟨creations, -, h⟩ := bind_eq_ok h
  cases h
  have hpromotes := promoteAll_promotes hall
  exact hpromotes

theorem promotedRefs_assign (v : View) (ref : NodeRef) (axis : Axis) (c : Number) :
    (v.assign ref axis c).promotedRefs = v.promotedRefs := by
  unfold assign
  split
  · rfl
  · rfl
  · exact congrArg (· ++ v.passives.groups.promotedRefs) (v.activities.promotedRefs_assignGroup _ axis c)
  · exact congrArg (v.activities.groups.promotedRefs ++ ·) (v.passives.promotedRefs_assignGroup _ axis c)
  · rfl

theorem promotedRefs_setRunning (v : View) (ref : NodeRef) (ids : List Int) (running : Bool) :
    (v.setRunning ref ids running).promotedRefs = v.promotedRefs := by
  unfold setRunning
  split
  · split
    · exact congrArg (· ++ v.passives.groups.promotedRefs)
        (Population.flagged_setOwnRunning v.activities _ running).promotedRefs
    · rfl
  · exact congrArg (· ++ v.passives.groups.promotedRefs)
      (Population.flagged_setGroupRunning v.activities _ ids running).promotedRefs
  · rfl

theorem promotedRefs_foldl_countMessage (es : List (EntityRef × EntityRef)) (v : View) :
    (es.foldl countMessage v).promotedRefs = v.promotedRefs := by
  rw [promotedRefs, foldl_countMessage_activities, foldl_countMessage_passives, promotedRefs]

theorem promotedRefs_absorb (v : View) (b : Batch) : (v.absorb b).view.promotedRefs = v.promotedRefs := by
  obtain hview | ⟨m, hview⟩ := v.absorb_view b
  · rw [hview]
  · rw [hview, taken, promotedRefs_foldl_countMessage, promotedRefs, Population.promotedRefs_announceAll,
      Population.promotedRefs_announceAll, promotedRefs]

theorem promotionsIn_absorb (v : View) (b : Batch) : promotionsIn (v.absorb b).log = [] := by
  have hquiet : promotionsIn [emptyBatchRecord] = [] ∧ promotionsIn [appliedRecord b] = [] := by
    simp [promotionsIn, emptyBatchRecord, appliedRecord, logger]
  unfold absorb
  repeat' split
  exacts [rfl, hquiet.1, rfl, rfl, hquiet.2]

theorem promotedRefs_assignGiven {ref : NodeRef} {axis : Axis} {given : Option Json}
    (h : v.assignGiven ref axis given = .ok w) : w.promotedRefs = v.promotedRefs := by
  rw [eq_assign?_of_assignGiven h, assign?]
  cases given.bind Number.ofJson? with
  | none => rfl
  | some c => exact v.promotedRefs_assign ref axis c

theorem move_promotes (v : View) (dataId : String) (x y : Option Json) :
    Promotes v.promotedRefs (v.move dataId x y).view.promotedRefs (v.move dataId x y).log := by
  unfold move
  split
  · exact .refl _
  · next hfind => exact find_promotes hfind
  · next u ref log hfind =>
    have hpromotes := find_promotes hfind
    split
    · exact hpromotes
    · next hx =>
      rw [← promotedRefs_assignGiven hx] at hpromotes
      split
      · exact hpromotes
      · next hy => rwa [← promotedRefs_assignGiven hy] at hpromotes

/-! ### Runs -/

/-- The records that a run writes. -/
def written : List Op → View → List Log.Record
  | [], _ => []
  | op :: ops, v => (op.run v).log ++ written ops (op.run v).view

/-- Whatever an operation does, but for a reset, it writes a record of each group that gets its node. -/
theorem promotes_step (v : View) {op : Op} (hop : op ≠ .reset) :
    Promotes v.promotedRefs (op.run v).view.promotedRefs (op.run v).log := by
  cases op with
  | ingest b =>
    rw [Op.run, promotedRefs_absorb]
    exact .of_quiet _ (promotionsIn_absorb v b)
  | setMetaModel m => exact .refl _
  | reset => exact absurd rfl hop
  | listActivities =>
    rw [Op.run]
    cases h : v.listActivities with
    | error e => exact .refl _
    | ok r => exact listActivities_promotes h
  | listPassives =>
    rw [Op.run]
    cases h : v.listPassives with
    | error e => exact .refl _
    | ok r => exact listPassives_promotes h
  | links =>
    rw [Op.run]
    cases h : v.links with
    | error e => exact .refl _
    | ok r => exact links_promotes h
  | find dataId =>
    rw [Op.run]
    cases h : v.find dataId with
    | error e => exact .refl _
    | ok r => exact find_promotes h
  | move dataId x y => exact v.move_promotes dataId x y
  | setRunning dataId ids running =>
    rw [Op.run]
    split
    · exact .refl _
    · next h => exact find_promotes h
    · next h =>
      rw [promotedRefs_setRunning]
      exact find_promotes h
  | visible e => exact .refl _

theorem promotes_run (v : View) {ops : List Op} (hops : ∀ op ∈ ops, op ≠ .reset) :
    Promotes v.promotedRefs (run ops v).promotedRefs (written ops v) := by
  induction ops generalizing v with
  | nil => exact .refl _
  | cons op ops ih =>
    exact (v.promotes_step (hops op (by simp))).trans (ih (op.run v).view fun o ho => hops o (by simp [ho]))

/-! ### Each group once -/

/-- No group has two nodes, and the nodes of different groups differ. -/
theorem Holds.nodup_promotedRefs {past : History} (h : v.Holds past) : v.promotedRefs.Nodup := by
  rw [promotedRefs, List.nodup_append]
  refine ⟨h.activities.nodup_promotedRefs, h.passives.nodup_promotedRefs, ?_⟩
  rintro ref href _ href' rfl
  have hkinds :=
    (h.activities.kind_of_mem_promotedRefs href).symm.trans (h.passives.kind_of_mem_promotedRefs href')
  cases hkinds

/-- A run of a new view writes exactly one record of each group that has a node in the end. -/
theorem promotions_run (m : Option MetaModel) {ops : List Op} (hops : ∀ op ∈ ops, op ≠ .reset) :
    ∃ ps : List (NodeRef × Nat),
      promotionsIn (written ops (new m)) = ps.map (fun p => p.1.promotionRecord p.2) ∧
      (ps.map Prod.fst).Perm (run ops (new m)).promotedRefs ∧ (ps.map Prod.fst).Nodup := by
  obtain ⟨ps, hlog, hperm⟩ := promotes_run (new m) hops
  exact ⟨ps, hlog, hperm.symm, hperm.nodup_iff.1 (holds_run m ops).nodup_promotedRefs⟩

end View

end TraceGraph
