import TraceGraph.Capabilities
import TraceGraph.Proofs.Sequence
import TraceGraph.Proofs.Table

/-! How capabilities classify operations. Of the lists that a type is declared in the last one tells its
kind, and of the definitions of an operation type the last one counts. Yet every definition has to be of a
declared type, those that are overridden too; the first that is not is the one reported. -/

namespace TraceGraph

namespace MetaModel

open Sequence

/-- The last definition of an operation type. -/
def lastDefinition? (marker : Int) (ops : List OpDefinition) : Option OpDefinition :=
  ops.reverse.find? (·.marker = marker)

/-- The first counterpart whose type has no kind. -/
def firstUndeclared? (kind? : Int → Option Kind) (ops : List OpDefinition) : Option Int :=
  (ops.map OpDefinition.counterpart).find? fun type => (kind? type).isNone

/-- A table that has the types of the given operations, each with the kind of the counterpart in its last
definition. -/
structure Resolved (kind? : Int → Option Kind) (ops : List OpDefinition) (t : Table Int Kind) : Prop where
  keys : ∀ marker, marker ∈ t.keys ↔ ∃ op ∈ ops, op.marker = marker
  get? : ∀ marker, t.get? marker = (lastDefinition? marker ops).bind fun op => kind? op.counterpart

theorem lastDefinition?_snoc (marker : Int) (ops : List OpDefinition) (op : OpDefinition) :
    lastDefinition? marker (ops ++ [op]) =
      if op.marker = marker then some op else lastDefinition? marker ops := by
  unfold lastDefinition?
  rw [List.reverse_append, List.reverse_singleton, List.singleton_append, List.find?_cons]
  by_cases h : op.marker = marker <;> simp [h]

theorem firstUndeclared?_append (kind? : Int → Option Kind) (ops ops' : List OpDefinition) :
    firstUndeclared? kind? (ops ++ ops') =
      (firstUndeclared? kind? ops).or (firstUndeclared? kind? ops') := by
  simp [firstUndeclared?, List.find?_append]

theorem firstUndeclared?_singleton (kind? : Int → Option Kind) (op : OpDefinition) :
    firstUndeclared? kind? [op] = if kind? op.counterpart = none then some op.counterpart else none := by
  cases h : kind? op.counterpart <;> simp [firstUndeclared?, h]

theorem firstUndeclared?_eq_none_iff (kind? : Int → Option Kind) (ops : List OpDefinition) :
    firstUndeclared? kind? ops = none ↔ ∀ op ∈ ops, (kind? op.counterpart).isSome := by
  simp [firstUndeclared?, List.find?_eq_none, Option.isSome_iff_ne_none]

theorem Resolved.nil (kind? : Int → Option Kind) : Resolved kind? [] Table.empty where
  keys := by simp
  get? := by simp [lastDefinition?]

theorem Resolved.snoc {kind? : Int → Option Kind} {ops : List OpDefinition} {t : Table Int Kind}
    (h : Resolved kind? ops t) {op : OpDefinition} {kind : Kind} (hkind : kind? op.counterpart = some kind) :
    Resolved kind? (ops ++ [op]) (t.set op.marker kind) where
  keys marker := by
    have hset : marker ∈ (t.set op.marker kind).keys ↔ marker ∈ t.keys ∨ marker = op.marker := by
      rw [Table.keys_set]
      split
      · next hold =>
        constructor
        · exact .inl
        · rintro (hm | rfl)
          · exact hm
          · exact hold
      · simp
    rw [hset, h.keys]
    simp [or_and_right, exists_or, eq_comm]
  get? marker := by
    rw [Table.get?_set, lastDefinition?_snoc]
    by_cases hm : op.marker = marker
    · rw [if_pos hm.symm, if_pos hm, Option.bind_some, hkind]
    · rw [if_neg (Ne.symm hm), if_neg hm, h.get?]

theorem resolve_snoc (kinds : Table Int Kind) (ops : List OpDefinition) (op : OpDefinition) :
    resolve kinds (ops ++ [op]) =
      resolve kinds ops >>= fun t => kindOf kinds op.counterpart >>= fun kind =>
        pure (t.set op.marker kind) := by
  unfold resolve
  rw [List.foldlM_append]
  simp only [List.foldlM_cons, List.foldlM_nil, bind_pure]

theorem kindOf_of_get? {kinds : Table Int Kind} {type : Int} {kind : Kind} (h : kinds.get? type = some kind) :
    kindOf kinds type = .ok kind := by
  rw [kindOf, h]

theorem kindOf_of_undeclared {kinds : Table Int Kind} {type : Int} (h : kinds.get? type = none) :
    kindOf kinds type = .error (.undeclaredType type) := by
  rw [kindOf, h]

/-- Operations resolve if the counterpart of each is declared. -/
theorem resolve_of_declared {kinds : Table Int Kind} {ops : List OpDefinition}
    (h : firstUndeclared? kinds.get? ops = none) :
    ∃ t, resolve kinds ops = .ok t ∧ Resolved kinds.get? ops t := by
  rw [firstUndeclared?_eq_none_iff] at h
  induction ops using List.reverseRecOn with
  | nil => exact ⟨Table.empty, rfl, .nil _⟩
  | append_singleton ops op ih =>
    obtain ⟨t, ht, hresolved⟩ := ih fun op' hop' => h op' (by simp [hop'])
    obtain ⟨kind, hkind⟩ := Option.isSome_iff_exists.1 (h op (by simp))
    refine ⟨t.set op.marker kind, ?_, hresolved.snoc hkind⟩
    rw [resolve_snoc, ht]
    show (kindOf kinds op.counterpart >>= _) = _
    rw [kindOf_of_get? hkind]
    rfl

/-- Operations are gone through in order up to the first counterpart that is not declared. -/
theorem resolve_of_undeclared {kinds : Table Int Kind} {ops : List OpDefinition} {type : Int}
    (h : firstUndeclared? kinds.get? ops = some type) :
    resolve kinds ops = .error (.undeclaredType type) := by
  induction ops using List.reverseRecOn with
  | nil => cases h
  | append_singleton ops op ih =>
    rw [firstUndeclared?_append] at h
    rw [resolve_snoc]
    cases hops : firstUndeclared? kinds.get? ops with
    | some type' =>
      rw [hops] at h
      obtain rfl := Option.some.inj h
      rw [ih hops]
      rfl
    | none =>
      obtain ⟨t, ht, -⟩ := resolve_of_declared hops
      rw [hops, Option.none_or, firstUndeclared?_singleton] at h
      split at h
      · next hop =>
        obtain rfl := Option.some.inj h
        rw [ht]
        show (kindOf kinds op.counterpart >>= _) = _
        rw [kindOf_of_undeclared hop]
        rfl
      · cases h

/-- Sends and receives are resolved if the counterpart of each is declared. -/
theorem ofDefinitions_of_declared {kinds : Table Int Kind} {sends receives : List OpDefinition}
    (h : firstUndeclared? kinds.get? (sends ++ receives) = none) :
    ∃ m, ofDefinitions kinds sends receives = .ok m ∧
      Resolved kinds.get? sends m.sends ∧ Resolved kinds.get? receives m.receives := by
  rw [firstUndeclared?_append, Option.or_eq_none_iff] at h
  obtain ⟨s, hs, hsends⟩ := resolve_of_declared h.1
  obtain ⟨r, hr, hreceives⟩ := resolve_of_declared h.2
  refine ⟨⟨s, r⟩, ?_, hsends, hreceives⟩
  rw [ofDefinitions, hs, hr]
  rfl

/-- Of all operations, the sends before the receives, the first whose counterpart is not declared is
reported. -/
theorem ofDefinitions_of_undeclared {kinds : Table Int Kind} {sends receives : List OpDefinition} {type : Int}
    (h : firstUndeclared? kinds.get? (sends ++ receives) = some type) :
    ofDefinitions kinds sends receives = .error (.undeclaredType type) := by
  rw [firstUndeclared?_append] at h
  unfold ofDefinitions
  cases hsends : firstUndeclared? kinds.get? sends with
  | some type' =>
    rw [hsends] at h
    obtain rfl := Option.some.inj h
    rw [resolve_of_undeclared hsends]
    rfl
  | none =>
    obtain ⟨s, hs, -⟩ := resolve_of_declared hsends
    rw [hsends, Option.none_or] at h
    rw [hs]
    show (resolve kinds receives >>= _) = _
    rw [resolve_of_undeclared h]
    rfl

end MetaModel

namespace Capabilities

open Sequence MetaModel

/-! ### Well-formed capabilities -/

/-- What well-formed capabilities declare, list by list. -/
structure Declarations where
  activities : List Int
  passiveEntities : List Int
  dynamicScopes : List Int
  sends : List OpDefinition
  receives : List OpDefinition

/-- The list of definitions under a key, if there is one, is a list of values of which each `reads` as the
declaration in its place. -/
def Lists {α : Type} (reads : Json → α → Prop) (capabilities : Json) (key : String) (declared : List α) :
    Prop :=
  match capabilities.member? key with
  | some v => ∃ items, v = .list items ∧ List.Forall₂ reads items declared
  | none => declared = []

/-- An object whose id is the integer. -/
def IsEntity (v : Json) (id : Int) : Prop := v.member? "id" = some (.int id)

/-- An object with the integers of an operation, that of the counterpart under the given key. -/
def IsOperation (counterpart : String) (v : Json) (op : OpDefinition) : Prop :=
  v.member? "marker" = some (.int op.marker) ∧ v.member? counterpart = some (.int op.counterpart)

/-- The capabilities are well formed and declare `d`; whatever else stands in them does not matter. -/
structure Declares (capabilities : Json) (d : Declarations) : Prop where
  activities : Lists IsEntity capabilities "activities" d.activities
  passiveEntities : Lists IsEntity capabilities "passiveEntities" d.passiveEntities
  dynamicScopes : Lists IsEntity capabilities "dynamicScopes" d.dynamicScopes
  sends : Lists (IsOperation "target") capabilities "sendOps" d.sends
  receives : Lists (IsOperation "source") capabilities "receiveOps" d.receives

namespace Declarations

/-- The kind of a type. -/
def kind? (d : Declarations) (type : Int) : Option Kind :=
  if type ∈ d.dynamicScopes then some .dynamicScope
  else if type ∈ d.passiveEntities then some .passiveEntity
  else if type ∈ d.activities then some .activity
  else none

def Declared (d : Declarations) (type : Int) : Prop :=
  type ∈ d.activities ∨ type ∈ d.passiveEntities ∨ type ∈ d.dynamicScopes

instance (d : Declarations) (type : Int) : Decidable (d.Declared type) :=
  inferInstanceAs (Decidable (_ ∨ _ ∨ _))

theorem isSome_kind?_iff (d : Declarations) (type : Int) : (d.kind? type).isSome ↔ d.Declared type := by
  unfold kind? Declared
  by_cases hd : type ∈ d.dynamicScopes
  · simp [hd]
  · by_cases hp : type ∈ d.passiveEntities
    · simp [hd, hp]
    · simp [hd, hp]

end Declarations

theorem Declarations.firstUndeclared?_eq_none_iff (d : Declarations) (ops : List OpDefinition) :
    firstUndeclared? d.kind? ops = none ↔ ∀ op ∈ ops, d.Declared op.counterpart := by
  simp only [MetaModel.firstUndeclared?_eq_none_iff, d.isSome_kind?_iff]

theorem Declarations.exists_split_of_firstUndeclared? {d : Declarations} {ops : List OpDefinition} {type : Int}
    (h : firstUndeclared? d.kind? ops = some type) :
    ∃ before op after, ops = before ++ op :: after ∧ (∀ b ∈ before, d.Declared b.counterpart) ∧
      ¬ d.Declared op.counterpart ∧ op.counterpart = type := by
  obtain ⟨op, hop, rfl⟩ : ∃ op, ops.find? (fun op => (d.kind? op.counterpart).isNone) = some op ∧
      op.counterpart = type := by
    simpa [firstUndeclared?, List.find?_map, Function.comp_def] using h
  obtain ⟨hnone, before, after, rfl, hbefore⟩ := List.find?_eq_some_iff_append.1 hop
  refine ⟨before, op, after, rfl, ?_, ?_, rfl⟩
  · intro b hb
    rw [← d.isSome_kind?_iff]
    simpa [Option.isSome_iff_ne_none] using hbefore b hb
  · rw [← d.isSome_kind?_iff]
    simpa using hnone

/-! ### Reading them -/

theorem field_of_member? {key : String} {v w : Json} (h : v.member? key = some w) : field key v = .ok w := by
  cases v with
  | object ms => rw [field, h]
  | _ => cases h

theorem integerField_of_member? {key : String} {v : Json} {n : Int} (h : v.member? key = some (.int n)) :
    integerField key v = .ok n := by
  rw [integerField, field_of_member? h]
  rfl

theorem operation_of_isOperation {counterpart : String} {v : Json} {op : OpDefinition}
    (h : IsOperation counterpart v op) : operation counterpart v = .ok op := by
  rw [operation, integerField_of_member? h.1, integerField_of_member? h.2]
  rfl

theorem Lists.definitions {α : Type} {reads : Json → α → Prop} {capabilities : Json} {key : String}
    {declared : List α} (h : Lists reads capabilities key declared) :
    ∃ items, definitions capabilities key = .ok items ∧ List.Forall₂ reads items declared := by
  cases hv : capabilities.member? key with
  | some v =>
    simp only [Lists, hv] at h
    obtain ⟨items, rfl, hitems⟩ := h
    exact ⟨items, by rw [Capabilities.definitions, hv]; rfl, hitems⟩
  | none =>
    simp only [Lists, hv] at h
    subst h
    exact ⟨[], by rw [Capabilities.definitions, hv], .nil⟩

theorem Lists.operations {capabilities : Json} {key counterpart : String} {ops : List OpDefinition}
    (h : Lists (IsOperation counterpart) capabilities key ops) :
    operations capabilities key counterpart = .ok ops := by
  obtain ⟨items, hitems, hreads⟩ := h.definitions
  rw [Capabilities.operations, hitems]
  exact mapM_eq_ok_iff.2 (hreads.imp fun _ _ => operation_of_isOperation)

/-- The kinds after types are declared of one more kind. -/
def declareAll (kinds : Table Int Kind) (types : List Int) (kind : Kind) : Table Int Kind :=
  types.foldl (fun kinds type => kinds.set type kind) kinds

theorem get?_declareAll (kinds : Table Int Kind) (types : List Int) (kind : Kind) (type : Int) :
    (declareAll kinds types kind).get? type = if type ∈ types then some kind else kinds.get? type := by
  induction types generalizing kinds with
  | nil => simp [declareAll]
  | cons t types ih =>
    have hcons : declareAll kinds (t :: types) kind = declareAll (kinds.set t kind) types kind := rfl
    rw [hcons, ih, Table.get?_set]
    by_cases h : type ∈ types
    · simp [h]
    · simp [h]

theorem foldlM_declare {items : List Json} {types : List Int} (h : List.Forall₂ IsEntity items types)
    (kinds : Table Int Kind) (kind : Kind) :
    items.foldlM (fun kinds d => return kinds.set (← integerField "id" d) kind) kinds =
      Except.ok (ε := Error) (declareAll kinds types kind) := by
  induction h generalizing kinds with
  | nil => rfl
  | cons hid _ ih =>
    rw [List.foldlM_cons, integerField_of_member? hid]
    exact ih _

/-- The kinds of well-formed capabilities are those that they declare. -/
theorem Declares.declaredKinds {capabilities : Json} {d : Declarations} (h : Declares capabilities d) :
    ∃ kinds, declaredKinds capabilities = .ok kinds ∧ kinds.get? = d.kind? := by
  obtain ⟨as, has, hactivities⟩ := h.activities.definitions
  obtain ⟨ps, hps, hpassives⟩ := h.passiveEntities.definitions
  obtain ⟨ss, hss, hscopes⟩ := h.dynamicScopes.definitions
  refine ⟨declareAll (declareAll (declareAll Table.empty d.activities .activity)
    d.passiveEntities .passiveEntity) d.dynamicScopes .dynamicScope, ?_, ?_⟩
  · unfold Capabilities.declaredKinds kindLists
    rw [List.foldlM_cons, has]
    show (List.foldlM _ _ as >>= _) = _
    rw [foldlM_declare hactivities]
    show (List.foldlM _ _ _) = _
    rw [List.foldlM_cons, hps]
    show (List.foldlM _ _ ps >>= _) = _
    rw [foldlM_declare hpassives]
    show (List.foldlM _ _ _) = _
    rw [List.foldlM_cons, hss]
    show (List.foldlM _ _ ss >>= _) = _
    rw [foldlM_declare hscopes]
    rfl
  · funext type
    rw [get?_declareAll, get?_declareAll, get?_declareAll, Table.get?_empty]
    rfl

/-- Well-formed capabilities are read to what they declare. -/
theorem Declares.metaModel_eq {ms : List (String × Json)} {d : Declarations} (h : Declares (.object ms) d) :
    ∃ kinds : Table Int Kind, kinds.get? = d.kind? ∧
      metaModel (.object ms) = (ofDefinitions kinds d.sends d.receives).mapError .sequencing := by
  obtain ⟨kinds, hkinds, hkind?⟩ := h.declaredKinds
  refine ⟨kinds, hkind?, ?_⟩
  rw [metaModel, hkinds, h.sends.operations, h.receives.operations]
  rfl

/-- Well-formed capabilities give a meta-model exactly if the counterpart of every operation is declared,
be the operation defined anew later or not. The meta-model then has the operations defined, each with the
kind of the counterpart in its last definition. Otherwise the first counterpart that is not declared is
named, and the sends are gone through before the receives. -/
theorem metaModel_classifies {ms : List (String × Json)} {d : Declarations} (h : Declares (.object ms) d) :
    ((∃ m, metaModel (.object ms) = .ok m) ↔ ∀ op ∈ d.sends ++ d.receives, d.Declared op.counterpart) ∧
      (∀ m, metaModel (.object ms) = .ok m →
        Resolved d.kind? d.sends m.sends ∧ Resolved d.kind? d.receives m.receives) ∧
      ∀ e, metaModel (.object ms) = .error e →
        ∃ before op after, d.sends ++ d.receives = before ++ op :: after ∧
          (∀ b ∈ before, d.Declared b.counterpart) ∧ ¬ d.Declared op.counterpart ∧
          e = .sequencing (.undeclaredType op.counterpart) ∧
          e.message = s!"Entity type {op.counterpart} is not declared in capabilities" := by
  obtain ⟨kinds, hkind?, heq⟩ := h.metaModel_eq
  rw [heq, ← d.firstUndeclared?_eq_none_iff]
  cases hfirst : firstUndeclared? d.kind? (d.sends ++ d.receives) with
  | none =>
    obtain ⟨m, hm, hresolved⟩ := ofDefinitions_of_declared (by rwa [hkind?])
    rw [hkind?] at hresolved
    rw [hm]
    refine ⟨⟨fun _ => rfl, fun _ => ⟨m, rfl⟩⟩, ?_, ?_⟩
    · intro m' hm'
      obtain rfl := Except.ok.inj hm'
      exact hresolved
    · intro e he
      cases he
  | some type =>
    rw [ofDefinitions_of_undeclared (by rwa [hkind?])]
    refine ⟨⟨?_, fun hnone => nomatch hnone⟩, ?_, ?_⟩
    · rintro ⟨m, hm⟩
      cases hm
    · intro m hm
      cases hm
    · intro e he
      obtain rfl := Except.error.inj he
      obtain ⟨before, op, after, hsplit, hbefore, hop, rfl⟩ :=
        Declarations.exists_split_of_firstUndeclared? hfirst
      exact ⟨before, op, after, hsplit, hbefore, hop, rfl, rfl⟩

/-- A type that is declared in two lists, and an operation that is defined twice. -/
def overriding : List (String × Json) :=
  [("activities", .list [.object [("id", .int 1)], .object [("name", .text "loop"), ("id", .int 2)]]),
    ("passiveEntities", .list [.object [("id", .int 2)]]),
    ("sendOps", .list [.object [("marker", .int 7), ("target", .int 1)],
      .object [("marker", .int 7), ("target", .int 2)]])]

theorem metaModel_classifies_overriding :
    ∃ m, metaModel (.object overriding) = .ok m ∧ m.sends.get? 7 = some .passiveEntity ∧
      m.receives.keys = [] := by
  have hd : Declares (.object overriding) ⟨[1, 2], [2], [], [⟨7, 1⟩, ⟨7, 2⟩], []⟩ :=
    { activities := ⟨_, rfl, .cons rfl (.cons rfl .nil)⟩
      passiveEntities := ⟨_, rfl, .cons rfl .nil⟩
      dynamicScopes := rfl
      sends := ⟨_, rfl, .cons ⟨rfl, rfl⟩ (.cons ⟨rfl, rfl⟩ .nil)⟩
      receives := rfl }
  obtain ⟨hdeclared, hresolved, -⟩ := metaModel_classifies hd
  obtain ⟨m, hm⟩ := hdeclared.2 (by decide)
  obtain ⟨hsends, hreceives⟩ := hresolved m hm
  refine ⟨m, hm, hsends.get? 7, ?_⟩
  rw [List.eq_nil_iff_forall_not_mem]
  intro marker hmarker
  obtain ⟨op, hop, -⟩ := (hreceives.keys marker).1 hmarker
  cases hop

/-- An operation that is defined anew is looked up all the same. -/
example : (metaModel (.object [("activities", .list [.object [("id", .int 1)]]),
    ("sendOps", .list [.object [("marker", .int 7), ("target", .int 3)],
      .object [("marker", .int 7), ("target", .int 1)]])])) = .error (.sequencing (.undeclaredType 3)) :=
  rfl

end Capabilities

end TraceGraph
