import TraceGraph.Group.Run
import TraceGraph.Proofs.Continuity
import TraceGraph.Proofs.Sequence
import Mathlib.Algebra.GroupWithZero.Nat

/-! Runs of a table of groups. Whatever is added, looked up, promoted and moved, and in whatever order, the
groups are numbered from 0 as their keys came and hold what was added under their keys. All that is done to
a group besides is to give it a node, once, and to move that node. -/

namespace TraceGraph

open Sequence

variable {α : Type}

/-! ### One group -/

/-- The same group later: further members came behind the old ones, and its node was moved. -/
structure Group.Grows (g g' : Group α) (more : List α) (moves : List (Axis × Number)) : Prop where
  id : g'.id = g.id
  members : g'.members = g.members ++ more
  place : ∀ p, g.place = some p → g'.place = some (p.setAll moves)

namespace Group

variable {g g' g'' : Group α} {more more' : List α} {moves moves' : List (Axis × Number)}

theorem Grows.refl (g : Group α) : g.Grows g [] [] := ⟨rfl, (List.append_nil _).symm, fun _ h => h⟩

theorem Grows.trans (h : g.Grows g' more moves) (h' : g'.Grows g'' more' moves') :
    g.Grows g'' (more ++ more') (moves ++ moves') where
  id := h'.id.trans h.id
  members := by rw [h'.members, h.members, List.append_assoc]
  place p hp := by rw [h'.place _ (h.place p hp), Position.setAll_append]

theorem grows_add (g : Group α) (a : α) : g.Grows (g.add a) [a] [] := ⟨rfl, rfl, fun _ h => h⟩

theorem grows_promote (g : Group α) (n : Int) : g.Grows (g.promote n) [] [] where
  id := promote_id g n
  members := by rw [promote_members, List.append_nil]
  place p hp := by rw [promote_of_isPromoted (Option.isSome_of_eq_some hp), hp]; rfl

/-- The group after coordinates were assigned to its node, one after the other. -/
def setAll (moves : List (Axis × Number)) (g : Group α) : Group α :=
  { g with place := g.place.map (·.setAll moves) }

theorem setAll_nil (g : Group α) : g.setAll [] = g := by
  obtain ⟨id, members, place⟩ := g
  cases place <;> rfl

theorem setAll_setAll (moves moves' : List (Axis × Number)) (g : Group α) :
    (g.setAll moves).setAll moves' = g.setAll (moves ++ moves') := by
  simp only [setAll, Option.map_map, Function.comp_def, Position.setAll_append]

theorem grows_setAll (g : Group α) (moves : List (Axis × Number)) : g.Grows (g.setAll moves) [] moves where
  id := rfl
  members := (List.append_nil _).symm
  place p hp := by
    rw [setAll, hp]
    rfl

theorem promote_eq (g : Group α) (n : Int) :
    g.promote n = { g with place := some (g.place.getD (.seed g.size n)) } := by
  obtain ⟨id, members, place⟩ := g
  cases place <;> rfl

end Group

namespace GroupTable

/-! ### What operations add and assign -/

/-- What an operation adds, with its key. -/
def Op.addition? : Op α → Option (String × α)
  | .add key a => some (key, a)
  | _ => none

/-- All that operations add, in order. -/
def additions (ops : List (Op α)) : List (String × α) := ops.filterMap Op.addition?

/-- What was added under a key. -/
def under (key : String) (adds : List (String × α)) : List α := (adds.filter (·.1 = key)).map Prod.snd

/-- The keys of additions, in the order in which they first came. -/
def keysOf (adds : List (String × α)) : List String := (adds.map Prod.fst).eraseDups

/-- The coordinates that an operation assigns to the node of the group of a key. -/
def Op.moves (key : String) : Op α → List (Axis × Number)
  | .assign k axis given => if k = key then (Number.ofJson? given).toList.map fun c => (axis, c) else []
  | .move k x y => if k = key then View.coordinates (some x) (some y) else []
  | _ => []

def movesIn (key : String) (ops : List (Op α)) : List (Axis × Number) := ops.flatMap (Op.moves key)

theorem additions_cons (op : Op α) (ops : List (Op α)) :
    additions (op :: ops) = op.addition?.toList ++ additions ops := by
  unfold additions
  cases hadd : op.addition? <;> simp [hadd]

theorem under_append (key : String) (adds more : List (String × α)) :
    under key (adds ++ more) = under key adds ++ under key more := by
  rw [under, List.filter_append, List.map_append]
  rfl

theorem nodup_keysOf (adds : List (String × α)) : (keysOf adds).Nodup := nodup_eraseDups _

theorem keysOf_snoc (adds : List (String × α)) (key : String) (a : α) :
    keysOf (adds ++ [(key, a)]) = if key ∈ keysOf adds then keysOf adds else keysOf adds ++ [key] := by
  rw [keysOf, List.map_append, List.map_singleton, eraseDups_snoc]
  simp only [keysOf, List.mem_eraseDups]

theorem under_of_notMem {key : String} {adds : List (String × α)} (h : key ∉ keysOf adds) : under key adds = [] := by
  rw [under, List.map_eq_nil_iff, List.filter_eq_nil_iff]
  intro e he hkey
  exact h (List.mem_eraseDups.2 (List.mem_map.2 ⟨e, he, of_decide_eq_true hkey⟩))

/-- Every addition is made under one key. -/
theorem sum_length_under (adds : List (String × α)) :
    ((keysOf adds).map fun key => (under key adds).length).sum = adds.length := by
  simp only [under, List.length_map]
  rw [← List.length_flatMap]
  exact (fibers_perm Prod.fst (nodup_keysOf adds) adds fun e he =>
    List.mem_eraseDups.2 (List.mem_map_of_mem he)).length_eq

/-! ### One operation -/

variable {t t' : GroupTable α} {op : Op α} {key : String} {g : Group α} {log : List Log.Record}

theorem modify_of_get?_eq_none (h : t.get? key = none) (f : Group α → Group α) : t.modify key f = t := by
  have hself : t.groups.modify key f = t.groups :=
    Table.modify_eq_self fun g hg => absurd (h.symm.trans hg) (by simp)
  rw [modify, hself]

theorem modify_modify (t : GroupTable α) (key : String) (f f' : Group α → Group α) :
    (t.modify key f).modify key f' = t.modify key fun g => f' (f g) := by
  rw [modify_eq_mapGroups, modify_eq_mapGroups, modify_eq_mapGroups, mapGroups_mapGroups]
  congr 1
  funext k g
  by_cases hk : k = key <;> simp [hk]

theorem modify_id (t : GroupTable α) (key : String) : t.modify key (·.setAll []) = t := by
  have hself : t.groups.modify key (·.setAll []) = t.groups :=
    Table.modify_eq_self fun g _ => g.setAll_nil
  rw [modify, hself]

/-- An assignment is made to the group of the key, if there is one and the value is a number. -/
theorem table_assign (t : GroupTable α) (key : String) (axis : Axis) (given : Json) :
    ((Op.assign key axis given).run t).table =
      t.modify key (·.setAll ((Number.ofJson? given).toList.map fun c => (axis, c))) := by
  rw [Op.run, assign, get, Fault.comparable]
  cases hg : t.get? key with
  | none => exact (modify_of_get?_eq_none hg _).symm
  | some g =>
    cases Number.ofJson? given with
    | none => exact (t.modify_id key).symm
    | some c => rfl

theorem table_move (t : GroupTable α) (key : String) (x y : Json) :
    ((Op.move key x y).run t).table = t.modify key (·.setAll (View.coordinates (some x) (some y))) := by
  rw [Op.run, move, assign, get, Fault.comparable, View.coordinates]
  cases hg : t.get? key with
  | none => exact (modify_of_get?_eq_none hg _).symm
  | some g =>
    cases Number.ofJson? x with
    | none => exact (t.modify_id key).symm
    | some c =>
      -- the group is still there when the second coordinate is assigned
      have hmoved : (t.modify key (·.set .x c)).get? key = some (g.set .x c) := by
        rw [modify_eq_mapGroups, get?_mapGroups, hg, Option.map_some, if_pos rfl]
      dsimp only [bind, Except.bind, pure, Except.pure]
      rw [assign, get, hmoved, Fault.comparable, Option.bind_some]
      cases Number.ofJson? y with
      | none => rfl
      | some d =>
        change (t.modify key (·.set .x c)).modify key (·.set .y d) = _
        rw [modify_modify]
        exact congrArg (t.modify key) (funext fun g => Group.setAll_setAll [(.x, c)] [(.y, d)] g)

/-- The same groups with the same members. Nodes were given to some and moved, and where things of the kind
have no nodes none was given. -/
def Reshapes (t t' : GroupTable α) (moves : String → List (Axis × Number)) : Prop :=
  ∃ f : String → Group α → Group α, t' = t.mapGroups f ∧
    (∀ (key : String) (g : Group α), g.Grows (f key g) [] (moves key)) ∧
    (t.kind = .dynamicScope → ∀ (key : String) (g : Group α), g.place = none → (f key g).place = none)

theorem Reshapes.refl (t : GroupTable α) : t.Reshapes t fun _ => [] :=
  ⟨fun _ g => g, (mapGroups_eq_self fun _ _ _ => rfl).symm, fun _ g => .refl g, fun _ _ _ h => h⟩

theorem Reshapes.trans {t₁ t₂ t₃ : GroupTable α} {moves moves' : String → List (Axis × Number)}
    (h : t₁.Reshapes t₂ moves) (h' : t₂.Reshapes t₃ moves') :
    t₁.Reshapes t₃ fun key => moves key ++ moves' key := by
  obtain ⟨f, rfl, hf, hbare⟩ := h
  obtain ⟨f', rfl, hf', hbare'⟩ := h'
  exact ⟨_, mapGroups_mapGroups f f' t₁, fun key g => (hf key g).trans (hf' key _),
    fun hkind key g hg => hbare' hkind key _ (hbare hkind key g hg)⟩

theorem reshapes_modify (t : GroupTable α) (key : String) (moves : List (Axis × Number)) :
    t.Reshapes (t.modify key (·.setAll moves)) fun k => if key = k then moves else [] := by
  refine ⟨_, modify_eq_mapGroups t key _, fun k g => ?_, fun _ k g hg => ?_⟩
  · dsimp only
    by_cases hk : k = key
    · rw [if_pos hk, if_pos hk.symm]
      exact g.grows_setAll moves
    · rw [if_neg hk, if_neg (Ne.symm hk)]
      exact .refl g
  · split
    · rw [Group.setAll, hg, Option.map_none]
    · exact hg

theorem reshapes_of_promote {n : Int} (h : t.promote key n = .ok (t', log)) : t.Reshapes t' fun _ => [] := by
  obtain ⟨g, -, h⟩ := bind_eq_ok h
  split at h
  · rw [← (Prod.mk.inj (Except.ok.inj h)).1]
    exact .refl t
  · split at h
    · cases h
    · next hkind =>
      rw [← (Prod.mk.inj (Except.ok.inj h)).1]
      refine ⟨_, modify_eq_mapGroups t key _, fun k g => ?_, fun hscope => absurd hscope hkind⟩
      split
      · exact g.grows_promote n
      · exact .refl g

theorem reshapes_of_promoteKeys {keys : List String} (h : t.promoteKeys keys = .ok (t', log)) :
    t.Reshapes t' fun _ => [] := by
  induction keys generalizing t t' log with
  | nil =>
    rw [← (Prod.mk.inj (Except.ok.inj h)).1]
    exact .refl t
  | cons key keys ih =>
    obtain ⟨⟨t₁, log₁⟩, hfirst, h⟩ := bind_eq_ok h
    obtain ⟨⟨t₂, log₂⟩, hrest, h⟩ := bind_eq_ok h
    rw [← (Prod.mk.inj (Except.ok.inj h)).1]
    exact (reshapes_of_promote hfirst).trans (ih hrest)

theorem reshapes_promoted {r : Except Fault (GroupTable α × List Log.Record)}
    (h : ∀ t' log, r = .ok (t', log) → t.Reshapes t' fun _ => []) :
    t.Reshapes (t.promoted r).table fun _ => [] := by
  cases r with
  | error e => exact .refl t
  | ok r => exact h r.1 r.2 rfl

/-- All that is done to a table besides adding to it is done to its groups one by one. -/
theorem Op.reshapes (t : GroupTable α) (h : op.addition? = none) :
    t.Reshapes (op.run t).table (op.moves ·) := by
  cases op with
  | add key a => cases h
  | get key => exact .refl t
  | promote key n => exact reshapes_promoted fun _ _ => reshapes_of_promote
  | promoteAll => exact reshapes_promoted fun _ _ => reshapes_of_promoteKeys
  | assign key axis given =>
    rw [table_assign]
    exact t.reshapes_modify key _
  | move key x y =>
    rw [table_move]
    exact t.reshapes_modify key _

theorem Op.eq_add_of_addition? {a : α} (h : op.addition? = some (key, a)) : op = .add key a := by
  cases op <;> cases h
  rfl

/-- Through any operation the group of a key stays, with what is added under its key and what is assigned to
its node. -/
theorem Op.get?_run (op : Op α) (hg : t.get? key = some g) :
    ∃ g', (op.run t).table.get? key = some g' ∧ g.Grows g' (under key op.addition?.toList) (op.moves key) := by
  cases hadd : op.addition? with
  | none =>
    obtain ⟨f, hf, hgrows, -⟩ := op.reshapes t hadd
    rw [hf, get?_mapGroups, hg]
    exact ⟨f key g, rfl, hgrows key g⟩
  | some e =>
    obtain rfl := Op.eq_add_of_addition? hadd
    change ∃ g', (t.add e.1 e.2).get? key = some g' ∧ _
    rw [get?, GroupTable.add, Table.get?_set]
    by_cases hkey : key = e.1
    · subst hkey
      rw [if_pos rfl, grown, hg]
      exact ⟨_, rfl, by simpa [under, moves] using g.grows_add e.2⟩
    · rw [if_neg hkey]
      exact ⟨g, hg, by simpa [under, moves, Ne.symm hkey] using Group.Grows.refl g⟩

theorem get?_run (ops : List (Op α)) (hg : t.get? key = some g) :
    ∃ g', (run ops t).get? key = some g' ∧ g.Grows g' (under key (additions ops)) (movesIn key ops) := by
  induction ops generalizing t g with
  | nil => exact ⟨g, hg, .refl g⟩
  | cons op ops ih =>
    obtain ⟨g₁, hg₁, hgrows⟩ := op.get?_run hg
    obtain ⟨g₂, hg₂, hgrows'⟩ := ih hg₁
    refine ⟨g₂, hg₂, ?_⟩
    rw [additions_cons, under_append, movesIn, List.flatMap_cons]
    exact hgrows.trans hgrows'

/-! ### What a table holds -/

/-- A table as what was added to it makes it: a group for each key, numbered as the keys came, with the members
added under the key. Where things of the kind have no nodes it has none. -/
structure Represents (t : GroupTable α) (adds : List (String × α)) : Prop where
  keys : t.groups.keys = keysOf adds
  number : ∀ key g, t.get? key = some g → g.id = (keysOf adds).idxOf key
  members : ∀ key g, t.get? key = some g → g.members = under key adds
  bare : t.kind = .dynamicScope → ∀ key g, t.get? key = some g → g.place = none

variable {adds : List (String × α)}

theorem represents_empty (kind : Kind) (threshold : Int) :
    (empty kind threshold : GroupTable α).Represents [] where
  keys := rfl
  number _ _ h := by cases h
  members _ _ h := by cases h
  bare _ _ _ h := by cases h

namespace Represents

theorem mem_keys (h : t.Represents adds) (hg : t.get? key = some g) : key ∈ keysOf adds := by
  rw [← h.keys]
  exact Table.mem_keys_of_get? hg

theorem size_eq (h : t.Represents adds) : t.size = (keysOf adds).length := by
  rw [size, Table.size_eq_length_keys, h.keys]

theorem reshapes {moves : String → List (Axis × Number)} (h : t.Represents adds)
    (hr : t.Reshapes t' moves) : t'.Represents adds := by
  obtain ⟨f, rfl, hgrows, hbare⟩ := hr
  have hget : ∀ key g', (t.mapGroups f).get? key = some g' → ∃ g, t.get? key = some g ∧ f key g = g' := by
    intro key g' hg'
    rw [get?_mapGroups] at hg'
    exact Option.map_eq_some_iff.1 hg'
  refine ⟨(mapGroups_keys f t).trans h.keys, ?_, ?_, ?_⟩
  · intro key g' hg'
    obtain ⟨g, hg, rfl⟩ := hget key g' hg'
    rw [(hgrows key g).id, h.number key g hg]
  · intro key g' hg'
    obtain ⟨g, hg, rfl⟩ := hget key g' hg'
    rw [(hgrows key g).members, List.append_nil, h.members key g hg]
  · intro hkind key g' hg'
    obtain ⟨g, hg, rfl⟩ := hget key g' hg'
    exact hbare hkind key g (h.bare hkind key g hg)

/-- The group of a key with one more member is the one that the additions call for. -/
theorem grown (h : t.Represents adds) (key : String) (a : α) :
    (t.grown key a).id = (keysOf (adds ++ [(key, a)])).idxOf key ∧
      (t.grown key a).members = under key (adds ++ [(key, a)]) ∧
      (t.kind = .dynamicScope → (t.grown key a).place = none) := by
  have hsingle : under key [(key, a)] = [a] := by simp [under]
  rw [GroupTable.grown, keysOf_snoc, under_append, hsingle]
  cases hg : t.get? key with
  | some g =>
    rw [if_pos (h.mem_keys hg), Option.getD_some]
    exact ⟨h.number key g hg, congrArg (· ++ [a]) (h.members key g hg), fun hkind => h.bare hkind key g hg⟩
  | none =>
    have hkey : key ∉ keysOf adds := by
      rw [← h.keys]
      exact (Table.get?_eq_none_iff _ _).1 hg
    rw [if_neg hkey, Option.getD_none, under_of_notMem hkey, List.idxOf_append_of_notMem hkey,
      List.idxOf_cons_self, Nat.add_zero, ← h.size_eq]
    exact ⟨rfl, rfl, fun _ => rfl⟩

theorem add (h : t.Represents adds) (key : String) (a : α) :
    (t.add key a).Represents (adds ++ [(key, a)]) := by
  obtain ⟨hnumber, hmembers, hbare⟩ := h.grown key a
  -- a look-up in the larger table meets the grown group or an old group of another key
  have hget : ∀ k g, (t.add key a).get? k = some g →
      k = key ∧ g = t.grown key a ∨ k ≠ key ∧ t.get? k = some g := by
    intro k g hg
    rw [get?, GroupTable.add, Table.get?_set] at hg
    split at hg
    · next hk => exact .inl ⟨hk, (Option.some.inj hg).symm⟩
    · next hk => exact .inr ⟨hk, hg⟩
  refine ⟨?_, ?_, ?_, ?_⟩
  · rw [GroupTable.add, Table.keys_set, h.keys, keysOf_snoc]
  · intro k g hg
    obtain ⟨rfl, rfl⟩ | ⟨-, hg⟩ := hget k g hg
    · exact hnumber
    · rw [h.number k g hg, keysOf_snoc]
      split
      · rfl
      · rw [List.idxOf_append_of_mem (h.mem_keys hg)]
  · intro k g hg
    obtain ⟨rfl, rfl⟩ | ⟨hk, hg⟩ := hget k g hg
    · exact hmembers
    · rw [h.members k g hg, under_append]
      simp [under, Ne.symm hk]
  · intro hkind k g hg
    obtain ⟨rfl, rfl⟩ | ⟨-, hg⟩ := hget k g hg
    · exact hbare hkind
    · exact h.bare hkind k g hg

theorem step (h : t.Represents adds) (op : Op α) :
    (op.run t).table.Represents (adds ++ op.addition?.toList) := by
  cases hadd : op.addition? with
  | none =>
    rw [Option.toList_none, List.append_nil]
    exact h.reshapes (op.reshapes t hadd)
  | some e =>
    obtain rfl := Op.eq_add_of_addition? hadd
    exact h.add e.1 e.2

theorem run (h : t.Represents adds) (ops : List (Op α)) :
    (GroupTable.run ops t).Represents (adds ++ additions ops) := by
  induction ops generalizing t adds with
  | nil => rwa [additions, List.filterMap_nil, List.append_nil]
  | cons op ops ih =>
    have hops := ih (h.step op)
    rwa [List.append_assoc, ← additions_cons] at hops

/-- The groups are listed by their numbers. -/
theorem ids (h : t.Represents adds) : t.toList.map Group.id = List.range t.size := by
  have hids : t.toList.map Group.id = (keysOf adds).map (keysOf adds).idxOf := by
    rw [← h.keys, toList, Table.values, Table.keys, List.map_map, List.map_map]
    apply List.map_congr_left
    intro e he
    rw [Function.comp, h.number e.1 e.2 (Table.get?_of_mem he), ← h.keys]
    rfl
  rw [hids, h.size_eq]
  apply List.ext_getElem
  · rw [List.length_map, List.length_range]
  · intro i hi hi'
    rw [List.getElem_map, List.getElem_range, (nodup_keysOf adds).idxOf_getElem]

theorem sum_size (h : t.Represents adds) : (t.toList.map Group.size).sum = adds.length := by
  have hsizes : t.toList.map Group.size = (keysOf adds).map fun key => (under key adds).length := by
    rw [← h.keys, toList, Table.values, Table.keys, List.map_map, List.map_map]
    apply List.map_congr_left
    intro e he
    exact congrArg List.length (h.members e.1 e.2 (Table.get?_of_mem he))
  rw [hsizes, sum_length_under]

theorem exists_get_iff (h : t.Represents adds) :
    (∃ g, t.get key = .ok g) ↔ key ∈ adds.map Prod.fst := by
  rw [← List.mem_eraseDups, ← keysOf, ← h.keys]
  constructor
  · rintro ⟨g, hg⟩
    exact Table.mem_keys_of_get? (get?_of_get hg)
  · intro hkey
    obtain ⟨g, hg⟩ := Table.get?_eq_some_of_mem_keys hkey
    exact ⟨g, get_of_get? hg⟩

end Represents

/-! ### Promotions -/

theorem toList_settled (t : GroupTable α) :
    t.settled.toList = t.toList.map fun g => if t.isCrowded g then g.promote t.size else g := by
  rw [toList, toList, settled, mapGroups, Table.mapValues, Table.values, Table.values, List.map_map, List.map_map]
  rfl

/-- The nodes of the crowded groups, once these are promoted: those that they had, or new ones. -/
theorem crowdedNodes_settled (t : GroupTable α) :
    t.settled.crowdedNodes = (t.toList.filter t.isCrowded).map fun g =>
      ⟨.group g.id g.members, g.place.getD (.seed g.size t.size)⟩ := by
  have hcrowded : t.settled.isCrowded ∘ (fun g => if t.isCrowded g then g.promote t.size else g) = t.isCrowded := by
    funext g
    rw [Function.comp, settled, isCrowded_mapGroups]
    split
    · exact t.isCrowded_promote g _
    · rfl
  rw [crowdedNodes, toList_settled, List.filter_map, hcrowded, List.filterMap_map, ← List.filterMap_eq_map]
  apply List.filterMap_congr
  intro g hg
  rw [Function.comp, if_pos (List.of_mem_filter hg), Group.promote_eq]
  rfl

theorem promoteKeys_of_isPromoted {keys : List String}
    (h : ∀ key ∈ keys, ∃ g, t.get? key = some g ∧ g.isPromoted = true) : t.promoteKeys keys = .ok (t, []) := by
  induction keys with
  | nil => rfl
  | cons key keys ih =>
    obtain ⟨g, hg, hp⟩ := h key List.mem_cons_self
    have hsame : t.promote key t.size = .ok (t, []) := by
      rw [promote, get_of_get? hg]
      exact if_pos hp
    rw [promoteKeys, hsame]
    change (t.promoteKeys keys >>= fun r => pure (r.1, [] ++ r.2)) = _
    rw [ih fun k hk => h k (List.mem_cons_of_mem key hk)]
    rfl

/-- What was promoted is not promoted again. -/
theorem promoteAll_settled (t : GroupTable α) : t.settled.promoteAll = .ok (t.settled, []) := by
  refine promoteKeys_of_isPromoted fun key hkey => ?_
  obtain ⟨e, he, rfl⟩ := List.mem_map.1 hkey
  obtain ⟨hmem, hcrowded⟩ := List.mem_filter.1 he
  have hget : t.settled.get? e.1 = some e.2 := Table.get?_of_mem hmem
  refine ⟨e.2, hget, ?_⟩
  rw [settled, get?_mapGroups] at hget
  obtain ⟨g, -, hg⟩ := Option.map_eq_some_iff.1 hget
  rw [← hg] at hcrowded ⊢
  split
  · exact g.isPromoted_promote _
  · next hc =>
    rw [if_neg hc] at hcrowded
    exact absurd hcrowded hc

/-- What promotions make of a table. -/
structure Promotable (t : GroupTable α) : Prop where
  one : ∀ key g n, t.get key = .ok g → ∃ t' log, t.promote key n = .ok (t', log) ∧
    t'.groups.keys = t.groups.keys ∧ ∀ k x, t.get k = .ok x →
      t'.get k = .ok (if k = key then { x with place := some (x.place.getD (.seed x.size n)) } else x)
  all : ∃ t' log, t.promoteAll = .ok (t', log) ∧
    t'.crowdedNodes = (t.toList.filter fun g => t.threshold < g.size).map (fun g =>
      ⟨.group g.id g.members, g.place.getD (.seed g.size t.size)⟩) ∧
    t'.groups.keys = t.groups.keys ∧ (∀ k x, t.get k = .ok x → t'.get k = .ok (if t.threshold < x.size then
      { x with place := some (x.place.getD (.seed x.size t.size)) } else x)) ∧
    t'.promoteAll = .ok (t', [])

theorem promotable (hkind : t.kind ≠ .dynamicScope) : t.Promotable where
  one key g n hg := by
    obtain ⟨log, hlog⟩ := promote_eq hkind (get?_of_get hg) n
    refine ⟨_, log, hlog, Table.keys_modify _ _ _, fun k x hx => get_of_get? ?_⟩
    rw [modify_eq_mapGroups, get?_mapGroups, get?_of_get hx, Option.map_some, Group.promote_eq]
  all := by
    obtain ⟨log, hlog⟩ := promoteAll_eq hkind
    refine ⟨_, log, hlog, ?_, mapGroups_keys _ t, fun k x hx => get_of_get? ?_, t.promoteAll_settled⟩
    · exact t.crowdedNodes_settled
    · rw [settled, get?_mapGroups, get?_of_get hx, Option.map_some, Group.promote_eq]
      simp only [isCrowded, decide_eq_true_eq]

/-- In a table of a kind without nodes, promotions are refused as soon as a group would get a node. -/
structure Refusing (t : GroupTable α) : Prop where
  one : ∀ key g n, t.get key = .ok g → g.place = none ∧
    (Op.promote key n).run t = ⟨t, .error (.sequencing (.noGroupNodes .dynamicScope))⟩
  all : Op.promoteAll.run t = ⟨t,
    if ∃ g ∈ t.toList, t.threshold < g.size then .error (.sequencing (.noGroupNodes .dynamicScope)) else .ok ()⟩

theorem Represents.refusing (h : t.Represents adds) (hkind : t.kind = .dynamicScope) : t.Refusing := by
  have hrefused : ∀ key g n, t.get? key = some g →
      t.promote key n = .error (.sequencing (.noGroupNodes .dynamicScope)) := by
    intro key g n hg
    have hbare : g.isPromoted = false := by rw [Group.isPromoted, h.bare hkind key g hg, Option.isSome_none]
    rw [promote, get_of_get? hg]
    change (if g.isPromoted = true then _ else if t.kind = .dynamicScope then _ else _) = _
    rw [if_neg (by simp [hbare]), if_pos hkind, hkind]
    rfl
  refine ⟨fun key g n hg => ⟨h.bare hkind key g (get?_of_get hg), ?_⟩, ?_⟩
  · rw [Op.run, hrefused key g n (get?_of_get hg)]
    rfl
  · cases hkeys : t.crowdedKeys with
    | nil =>
      have hnone : ¬ ∃ g ∈ t.toList, t.threshold < g.size := by
        rintro ⟨g, hg, hcrowded⟩
        obtain ⟨e, he, rfl⟩ := List.mem_map.1 hg
        have hkey : e.1 ∈ t.crowdedKeys :=
          List.mem_map_of_mem (List.mem_filter.2 ⟨he, decide_eq_true hcrowded⟩)
        rw [hkeys] at hkey
        cases hkey
      rw [if_neg hnone, Op.run, promoteAll, hkeys]
      rfl
    | cons key keys =>
      obtain ⟨e, he, hkey⟩ := List.mem_map.1 (hkeys ▸ List.mem_cons_self : key ∈ t.crowdedKeys)
      obtain ⟨hmem, hcrowded⟩ := List.mem_filter.1 he
      have hget : t.get? key = some e.2 := hkey ▸ Table.get?_of_mem hmem
      rw [if_pos ⟨e.2, List.mem_map_of_mem hmem, of_decide_eq_true hcrowded⟩, Op.run, promoteAll, hkeys,
        promoteKeys, hrefused key e.2 _ hget]
      rfl

/-! ### Runs -/

theorem Op.kind_run (op : Op α) (t : GroupTable α) :
    (op.run t).table.kind = t.kind ∧ (op.run t).table.threshold = t.threshold := by
  cases hadd : op.addition? with
  | none =>
    obtain ⟨f, hf, -⟩ := op.reshapes t hadd
    rw [hf]
    exact ⟨rfl, rfl⟩
  | some e =>
    obtain rfl := Op.eq_add_of_addition? hadd
    exact ⟨rfl, rfl⟩

theorem kind_run (ops : List (Op α)) (t : GroupTable α) :
    (run ops t).kind = t.kind ∧ (run ops t).threshold = t.threshold := by
  induction ops generalizing t with
  | nil => exact ⟨rfl, rfl⟩
  | cons op ops ih =>
    obtain ⟨hkind, hthreshold⟩ := ih (op.run t).table
    exact ⟨hkind.trans (op.kind_run t).1, hthreshold.trans (op.kind_run t).2⟩

/-- In every run of a table its groups are listed by their numbers 0, 1, 2 … as their keys came, and hold what
was added under their keys. A look-up finds the group that was added to, with what came to it since. A group
that has a node keeps it, and only assignments move it. Promotions give nodes to the groups asked for or to
the crowded ones, or are refused as a whole where things of the kind have no nodes. -/
theorem run_represents (kind : Kind) (threshold : Int) (ops : List (Op α)) :
    let t := run ops (empty kind threshold)
    (t.kind = kind ∧ t.threshold = threshold) ∧
    (t.groups.keys = keysOf (additions ops) ∧ t.toList.map Group.id = List.range t.size) ∧
    ((∀ key g, t.get key = .ok g → g.members = under key (additions ops)) ∧
      (t.toList.map Group.size).sum = (additions ops).length) ∧
    (∀ key, (∃ g, t.get key = .ok g) ↔ key ∈ (additions ops).map Prod.fst) ∧
    (∀ before key a after, ops = before ++ .add key a :: after →
      let added := (run before (empty kind threshold)).grown key a
      (run (before ++ [.add key a]) (empty kind threshold)).get key = .ok added ∧
      ∃ g, t.get key = .ok g ∧ g.id = added.id ∧ g.members = added.members ++ under key (additions after)) ∧
    (∀ before after, ops = before ++ after →
      ∀ key g p, (run before (empty kind threshold)).get key = .ok g → g.place = some p →
        ∃ g', t.get key = .ok g' ∧ g'.id = g.id ∧ g'.place = some (p.setAll (movesIn key after))) ∧
    (kind ≠ .dynamicScope → t.Promotable) ∧ (kind = .dynamicScope → t.Refusing) := by
  intro t
  have h : t.Represents (additions ops) := (represents_empty kind threshold).run ops
  have hkept : t.kind = kind ∧ t.threshold = threshold := kind_run ops (empty kind threshold)
  refine ⟨hkept, ⟨h.keys, h.ids⟩, ⟨fun key g hg => h.members key g (get?_of_get hg), h.sum_size⟩,
    fun key => h.exists_get_iff, ?_, ?_, ?_, ?_⟩
  · rintro before key a after rfl added
    have hadded : (run (before ++ [.add key a]) (empty kind threshold)).get? key = some added := by
      rw [run_append]
      exact Table.get?_set_self _ _ _
    obtain ⟨g, hg, hgrows⟩ := get?_run after hadded
    rw [← run_append, List.append_assoc, List.singleton_append] at hg
    exact ⟨get_of_get? hadded, g, get_of_get? hg, hgrows.id, hgrows.members⟩
  · rintro before after rfl key g p hg hp
    obtain ⟨g', hg', hgrows⟩ := get?_run after (get?_of_get hg)
    rw [← run_append] at hg'
    exact ⟨g', get_of_get? hg', hgrows.id, hgrows.place p hp⟩
  · exact fun hkind => promotable (by rwa [hkept.1])
  · exact fun hkind => h.refusing (by rwa [hkept.1])

end GroupTable

end TraceGraph
