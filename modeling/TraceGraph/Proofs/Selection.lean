import TraceGraph.Proofs.DataId
import TraceGraph.Proofs.Encoding
import TraceGraph.Proofs.Run

/-! What the query of a node selects. A query that is not empty splits at its commas into one token for
each id, and an id can be read off its token, so the text gives back the ids. In every view that can be
reached the query of a group selects all announcements of its key, in the order in which they came. Where
the digits of written integers are bounded, there is a query exactly if no id has more. -/

namespace TraceGraph

open Announcements Traced

/-! ### Queries -/

namespace Identifier

/-- The texts between the commas of a query. -/
def tokens (query : String) : List String := (query.toList.splitOn ',').map String.ofList

/-- The id in a token. -/
def ofToken? (token : String) : Option Int :=
  match token.toList with
  | '#' :: 'e' :: digits => (String.ofList digits).toInt?
  | _ => none

/-- The ids that a query selects; the empty one selects none. -/
def selected? (query : String) : Option (List Int) :=
  if query = "" then some [] else (tokens query).mapM ofToken?

theorem comma_not_mem_entity (id : Int) : ',' ∉ ("#" ++ entity id).toList := by
  have hdigits := not_mem_repr (c := ',') (by decide) (by decide) id
  rw [entity, Int.toString_eq_repr, String.toList_append, String.toList_append]
  simpa using hdigits

theorem tokens_query {ids : List Int} (h : ids ≠ []) :
    tokens (query ids) = ids.map fun id => "#" ++ entity id := by
  let ls := ids.map fun id => ("#" ++ entity id).toList
  have hcomma : ∀ l ∈ ls, ',' ∉ l := by
    intro l hl
    obtain ⟨id, -, rfl⟩ := List.mem_map.1 hl
    exact comma_not_mem_entity id
  have hsplit : ([','].intercalate ls).splitOn ',' = ls :=
    List.splitOn_intercalate ',' hcomma (by simpa [ls] using h)
  have hquery : (query ids).toList = [','].intercalate ls := by
    rw [query, String.toList_intercalate, List.map_map]
    rfl
  rw [tokens, hquery, hsplit, List.map_map]
  exact List.map_congr_left fun id _ => String.ofList_toList

theorem query_eq_empty_iff {ids : List Int} : query ids = "" ↔ ids = [] := by
  constructor
  · intro h
    by_contra hne
    have htokens := tokens_query hne
    rw [h] at htokens
    -- the only token of the empty text is empty, and those of ids begin with a mark
    obtain ⟨id, rest, rfl⟩ := List.exists_cons_of_ne_nil hne
    have hhead := congrArg (fun ts => ts.head?.map String.toList) htokens
    simp [tokens] at hhead
  · rintro rfl
    rfl

theorem ofToken?_entity (id : Int) : ofToken? ("#" ++ entity id) = some id := by
  have htoken : ("#" ++ entity id).toList = '#' :: 'e' :: id.repr.toList := by
    rw [entity, Int.toString_eq_repr, String.toList_append, String.toList_append]
    rfl
  rw [ofToken?, htoken]
  simp only [String.ofList_toList, Int.toInt?_repr]

/-- A query gives back the ids that it was made of. -/
theorem selected?_query (ids : List Int) : selected? (query ids) = some ids := by
  by_cases h : ids = []
  · rw [selected?, if_pos (query_eq_empty_iff.2 h), h]
  · have hread : (ofToken? ∘ fun id => "#" ++ entity id) = fun id => pure id := funext ofToken?_entity
    rw [selected?, if_neg (mt query_eq_empty_iff.1 h), tokens_query h, List.mapM_map, hread, List.mapM_pure,
      List.map_id']
    rfl

/-! ### Bounded digits -/

variable {digits : Option Nat}

theorem entityWithin_of_fits {id : Int} (h : Numeral.Fits digits id) :
    entityWithin digits id = .ok (entity id) := by
  rw [entityWithin, Numeral.decimal_of_fits h]
  rfl

/-- If every id can be written, so can the query. -/
theorem queryWithin_of_fits {ids : List Int} (h : ∀ id ∈ ids, Numeral.Fits digits id) :
    queryWithin digits ids = .ok (query ids) := by
  have htoken : ∀ id ∈ ids, (entityWithin digits id).map ("#" ++ ·) = .ok ("#" ++ entity id) := by
    intro id hid
    rw [entityWithin_of_fits (h id hid)]
    rfl
  rw [queryWithin, Sequence.mapM_eq_ok htoken]
  rfl

/-- An id that cannot be written refuses the query. -/
theorem queryWithin_of_not_fits {ids : List Int} (h : ∃ id ∈ ids, ¬ Numeral.Fits digits id) :
    ∃ limit ∈ digits, queryWithin digits ids = .error ⟨limit⟩ := by
  have htokens : ∃ limit ∈ digits,
      (ids.mapM fun id => (entityWithin digits id).map ("#" ++ ·)) = .error ⟨limit⟩ := by
    induction ids with
    | nil => simp at h
    | cons id ids ih =>
      by_cases hid : Numeral.Fits digits id
      · obtain ⟨limit, hlimit, hrest⟩ := ih (by simpa [hid] using h)
        refine ⟨limit, hlimit, ?_⟩
        rw [List.mapM_cons, entityWithin_of_fits hid, hrest]
        rfl
      · obtain ⟨limit, hlimit, hdecimal⟩ := Numeral.decimal_of_not_fits hid
        refine ⟨limit, hlimit, ?_⟩
        rw [List.mapM_cons, entityWithin, hdecimal]
        rfl
  obtain ⟨limit, hlimit, herror⟩ := htokens
  refine ⟨limit, hlimit, ?_⟩
  rw [queryWithin, herror]
  rfl

end Identifier

/-! ### Nodes -/

variable {α : Type} [Traced α] {limit : Int} {as : List α}

/-- What the query of a node selects. A node of its own is selected by its data id. A group is selected by
a token for each member, as many as its size, and the members are those of the group that the table holds
under the key of its number: all announcements of the key, in order. -/
def Node.Selects (n : Node α) (query : String) (t : GroupTable α) (as : List α) : Prop :=
  match n.subject with
  | .single _ => query = "#" ++ n.dataId
  | .group number members =>
    ∃ key g, t.get? key = some g ∧ g.id = number ∧ g.members = members ∧
      Identifier.selected? query = some (members.map Traced.id) ∧
      members.map Traced.id = (sharing as key).map Traced.id ∧
      (Identifier.tokens query).length = n.size

theorem Node.queryWithin_of_fits {digits : Option Nat} {n : Node α}
    (h : ∀ a ∈ n.members, Numeral.Fits digits (Traced.id a)) : n.queryWithin digits = .ok n.query :=
  Identifier.queryWithin_of_fits (List.forall_mem_map.2 h)

theorem Node.query_single {n : Node α} {a : α} (h : n.subject = .single a) : n.query = "#" ++ n.dataId := by
  rw [query, members, dataId, h]
  rfl

theorem Node.length_tokens_query {n : Node α} (h : n.members ≠ []) :
    (Identifier.tokens n.query).length = n.size := by
  rw [query, Identifier.tokens_query (by simpa using h), List.length_map, List.length_map, size]

namespace Population

variable {p : Population α}

/-- A group that has a node has members. -/
theorem Holds.members_ne_nil (h : p.Holds limit as) {key : String} {g : Group α}
    (hg : p.groups.get? key = some g) : g.members ≠ [] := by
  obtain ⟨a, ha, hkey⟩ := mem_keys.1 (h.mem_keys_of_get? hg)
  intro hnil
  have hmembers := (h.groups key g hg).members
  rw [hnil, List.map_nil, eq_comm, List.map_eq_nil_iff, sharing, List.filter_eq_nil_iff] at hmembers
  exact hmembers a ha (decide_eq_true hkey)

theorem Holds.selects (h : p.Holds limit as) {ref : NodeRef} {n : Node α} (hn : p.node? ref = some n) :
    n.Selects n.query p.groups as := by
  rcases ref with e | ⟨kind, number⟩
  · rw [node?] at hn
    split at hn
    · obtain ⟨x, -, rfl⟩ := Option.map_eq_some_iff.1 hn
      exact Node.query_single rfl
    · cases hn
  · rw [node?] at hn
    split at hn
    · obtain ⟨g, hg, hnode⟩ := Option.bind_eq_some_iff.1 hn
      obtain ⟨place, -, rfl⟩ := Option.map_eq_some_iff.1 hnode
      obtain ⟨⟨key, g⟩, hentry, rfl⟩ := List.mem_map.1 (List.mem_of_find?_eq_some hg)
      have hget := Table.get?_of_mem hentry
      have hids := congrArg (List.map Traits.id) (h.groups key g hget).members
      rw [List.map_map, List.map_map] at hids
      exact ⟨key, g, hget, rfl, rfl, Identifier.selected?_query _, hids,
        Node.length_tokens_query (h.members_ne_nil hget)⟩
    · cases hn

end Population

namespace View

variable {v : View} {ref : NodeRef}

theorem node?_eq_activity {n : Node Activity} (h : v.node? ref = some (.activity n)) :
    v.activities.node? ref = some n := by
  rw [node?_eq_or, Option.or_eq_some_iff, Option.map_eq_some_iff, Option.map_eq_some_iff] at h
  rcases h with ⟨x, hx, hn⟩ | ⟨-, x, -, hn⟩
  · rwa [AnyNode.activity.inj hn] at hx
  · cases hn

theorem node?_eq_passive {n : Node PassiveEntity} (h : v.node? ref = some (.passive n)) :
    v.passives.node? ref = some n := by
  rw [node?_eq_or, Option.or_eq_some_iff, Option.map_eq_some_iff, Option.map_eq_some_iff] at h
  rcases h with ⟨x, -, hn⟩ | ⟨-, x, hx, hn⟩
  · cases hn
  · rwa [AnyNode.passive.inj hn] at hx

/-- Whatever the bound on the digits of written integers, if there is one, ids have a query exactly if none of
them has more. The text of a query determines the ids: it is empty only if there are none, and else it splits
at its commas into one token for each id, in order. In every view that can be reached a node has a query if the
ids of its members can be written, and the query selects what the node stands for. -/
theorem queries_select_members (digits : Option Nat) :
    (∀ ids : List Int,
      ((∀ id ∈ ids, Numeral.Fits digits id) → ∃ query, Identifier.queryWithin digits ids = .ok query ∧
        (query = "" ↔ ids = []) ∧
        (ids ≠ [] → Identifier.tokens query = ids.map fun id => "#e" ++ toString id) ∧
        Identifier.selected? query = some ids) ∧
      ((∃ id ∈ ids, ¬ Numeral.Fits digits id) →
        ∃ limit ∈ digits, Identifier.queryWithin digits ids = .error ⟨limit⟩)) ∧
    ∀ (m : Option MetaModel) (ops : List Op),
      let v := run ops (new m)
      let past := history m ops
      (∀ ref n, v.node? ref = some (.activity n) → (∀ a ∈ n.members, Numeral.Fits digits a.id) →
        ∃ query, n.queryWithin digits = .ok query ∧ n.Selects query v.activities.groups past.activities) ∧
      ∀ ref n, v.node? ref = some (.passive n) → (∀ e ∈ n.members, Numeral.Fits digits e.id) →
        ∃ query, n.queryWithin digits = .ok query ∧ n.Selects query v.passives.groups past.passives := by
  constructor
  · refine fun ids => ⟨fun hfits => ?_, Identifier.queryWithin_of_not_fits⟩
    refine ⟨_, Identifier.queryWithin_of_fits hfits, Identifier.query_eq_empty_iff, fun hids => ?_,
      Identifier.selected?_query ids⟩
    rw [Identifier.tokens_query hids]
    exact List.map_congr_left fun id _ => String.append_assoc.symm
  · intro m ops v past
    have h : v.Holds past := holds_run m ops
    constructor
    · intro ref n hn hfits
      exact ⟨_, Node.queryWithin_of_fits hfits, h.activities.selects (node?_eq_activity hn)⟩
    · intro ref n hn hfits
      exact ⟨_, Node.queryWithin_of_fits hfits, h.passives.selects (node?_eq_passive hn)⟩

/-- An interpreter with the usual bound has no query of an id with 4301 digits. -/
theorem no_query_of_long_id :
    Identifier.queryWithin (some Numeral.digitLimit) [Int.pow 10 4300] = .error ⟨4300⟩ := by
  have hlong : ¬ Numeral.Fits (some Numeral.digitLimit) (Int.pow 10 4300) :=
    Numeral.not_fits_pow (by decide)
  obtain ⟨limit, hlimit, herror⟩ := Identifier.queryWithin_of_not_fits ⟨_, List.mem_singleton_self _, hlong⟩
  rw [herror, ← Option.some.inj hlimit]
  rfl

end View

end TraceGraph
