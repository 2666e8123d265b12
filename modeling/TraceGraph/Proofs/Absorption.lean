import TraceGraph.View
import TraceGraph.Proofs.Sequence

/-! Which batches a view absorbs, and what becomes of it. A batch refers to activities that create and
perform, and to the counterparts of its operations; it is absorbed exactly if all these references
resolve, against the view and the batch itself. Announcing and counting look everything up a second
time, and after the check that never fails. -/

namespace TraceGraph

open Sequence

/-- A send or a receive. -/
inductive Operation
  | send (s : SendOp)
  | receive (r : ReceiveOp)
  deriving DecidableEq

/-- The things that an operation's message comes from and goes to, if the meta-model has its type. -/
def Operation.ends? (m : MetaModel) : Operation → Option (EntityRef × EntityRef)
  | send s => (m.sends.get? s.type).map fun kind => (⟨.activity, s.performer⟩, ⟨kind, s.target⟩)
  | receive r => (m.receives.get? r.type).map fun kind => (⟨kind, r.source⟩, ⟨.activity, r.performer⟩)

/-- What a batch refers to: an activity as creator or performer, the target of a type of send, or the
source of a type of receive. -/
inductive Reference
  | actor (id : Int)
  | target (type id : Int)
  | source (type id : Int)
  deriving DecidableEq

namespace Batch

def operations (b : Batch) : List Operation := b.sends.map .send ++ b.receives.map .receive

/-- The references of a batch in the order of its records, performers before counterparts. -/
def references (b : Batch) : List Reference :=
  (b.activities.filterMap Activity.creator).map .actor ++
  b.passiveEntities.map (fun e => .actor e.creator) ++
  b.sends.flatMap (fun s => [.actor s.performer, .target s.type s.target]) ++
  b.receives.flatMap (fun r => [.actor r.performer, .source r.type r.source])

theorem eq_empty_of_isEmpty {b : Batch} (h : b.isEmpty = true) : b = empty := by
  cases b
  simpa [isEmpty, empty, and_assoc] using h

theorem isEmpty_of_mem_references {b : Batch} {r : Reference} (h : r ∈ b.references) :
    b.isEmpty = false := by
  by_contra hne
  rw [Bool.not_eq_false] at hne
  rw [eq_empty_of_isEmpty hne] at h
  cases h

end Batch

/-- Known to the view, or announced by the batch with that kind. -/
def View.Known (v : View) (b : Batch) : EntityRef → Prop
  | ⟨.activity, id⟩ => id ∈ v.activities.table.keys ∨ ∃ a ∈ b.activities, a.id = id
  | ⟨.passiveEntity, id⟩ => id ∈ v.passives.table.keys ∨ ∃ e ∈ b.passiveEntities, e.id = id
  | ⟨.dynamicScope, _⟩ => False

namespace Reference

/-- An actor resolves if it is a known activity, a counterpart if the meta-model has a kind for the type
of operation and a thing of that kind is known. -/
def Resolves (v : View) (m : MetaModel) (b : Batch) : Reference → Prop
  | actor id => v.Known b ⟨.activity, id⟩
  | target type id => ∃ kind, m.sends.get? type = some kind ∧ v.Known b ⟨kind, id⟩
  | source type id => ∃ kind, m.receives.get? type = some kind ∧ v.Known b ⟨kind, id⟩

/-- What is said of a thing that is not known. -/
def unknown (kind : Kind) (id : Int) : SequencingError :=
  if kind = .dynamicScope then .unresolvable kind id else .unknownEntity kind id

/-- What is said of a reference that does not resolve. -/
def fault (m : MetaModel) : Reference → SequencingError
  | actor id => unknown .activity id
  | target type id => (m.sends.get? type).elim (.unknownSendType type) (unknown · id)
  | source type id => (m.receives.get? type).elim (.unknownReceiveType type) (unknown · id)

end Reference

namespace View

/-! ### The check -/

theorem knows_eq_true_iff (v : View) (b : Batch) (kind : Kind) (id : Int) :
    v.knows b kind id = true ↔ v.Known b ⟨kind, id⟩ := by
  cases kind <;>
    simp [knows, Known, Population.knows, Table.contains_eq_true_iff]

theorem require_of_known {v : View} {b : Batch} {kind : Kind} {id : Int} (h : v.Known b ⟨kind, id⟩) :
    v.require b kind id = .ok () := by
  have hkind : kind ≠ .dynamicScope := by
    rintro rfl
    exact h
  rw [require, if_neg hkind, if_pos ((knows_eq_true_iff v b kind id).2 h)]

theorem require_of_not_known {v : View} {b : Batch} {kind : Kind} {id : Int}
    (h : ¬ v.Known b ⟨kind, id⟩) : v.require b kind id = .error (Reference.unknown kind id) := by
  rw [require, Reference.unknown]
  split
  · rfl
  · rw [if_neg fun hk => h ((knows_eq_true_iff v b kind id).1 hk)]

/-- The check of one reference. -/
def resolve (v : View) (m : MetaModel) (b : Batch) : Reference → Except SequencingError Unit
  | .actor id => v.require b .activity id
  | .target type id => do v.require b (← m.targetKind type) id
  | .source type id => do v.require b (← m.sourceKind type) id

theorem resolve_of_resolves {v : View} {m : MetaModel} {b : Batch} {r : Reference}
    (h : r.Resolves v m b) : v.resolve m b r = .ok () := by
  cases r with
  | actor id => exact require_of_known h
  | target type id =>
    obtain ⟨kind, hkind, hknown⟩ := h
    simp only [resolve, MetaModel.targetKind, hkind]
    exact require_of_known hknown
  | source type id =>
    obtain ⟨kind, hkind, hknown⟩ := h
    simp only [resolve, MetaModel.sourceKind, hkind]
    exact require_of_known hknown

theorem resolve_of_not_resolves {v : View} {m : MetaModel} {b : Batch} {r : Reference}
    (h : ¬ r.Resolves v m b) : v.resolve m b r = .error (r.fault m) := by
  cases r with
  | actor id => exact require_of_not_known h
  | target type id =>
    cases hkind : m.sends.get? type with
    | none => simp [resolve, MetaModel.targetKind, Reference.fault, hkind, bind, Except.bind]
    | some kind =>
      simp only [resolve, MetaModel.targetKind, Reference.fault, hkind, Option.elim_some]
      exact require_of_not_known fun hknown => h ⟨kind, hkind, hknown⟩
  | source type id =>
    cases hkind : m.receives.get? type with
    | none => simp [resolve, MetaModel.sourceKind, Reference.fault, hkind, bind, Except.bind]
    | some kind =>
      simp only [resolve, MetaModel.sourceKind, Reference.fault, hkind, Option.elim_some]
      exact require_of_not_known fun hknown => h ⟨kind, hkind, hknown⟩

theorem resolve_eq_ok_iff (v : View) (m : MetaModel) (b : Batch) (r : Reference) :
    v.resolve m b r = .ok () ↔ r.Resolves v m b := by
  constructor
  · intro hok
    by_contra h
    rw [resolve_of_not_resolves h] at hok
    cases hok
  · exact resolve_of_resolves

/-- The passes over the four lists check the references one after the other. -/
theorem check_eq_forM (v : View) (m : MetaModel) (b : Batch) :
    v.check m b = forM b.references (v.resolve m b) := by
  rw [check, Batch.references, List.forM_append, List.forM_append, List.forM_append, List.forM_map,
    List.forM_map, forM_filterMap, forM_flatMap_pair, forM_flatMap_pair]
  simp only [bind_assoc]
  congr 1
  refine congrArg b.activities.forM (funext fun a => ?_)
  cases a.creator <;> rfl

theorem check_eq_ok_iff (v : View) (m : MetaModel) (b : Batch) :
    v.check m b = .ok () ↔ ∀ r ∈ b.references, r.Resolves v m b := by
  rw [check_eq_forM, forM_eq_ok_iff]
  simp only [resolve_eq_ok_iff]

/-- The check names the first reference that does not resolve. -/
theorem check_eq_error_iff (v : View) (m : MetaModel) (b : Batch) (e : SequencingError) :
    v.check m b = .error e ↔
      ∃ before r after, b.references = before ++ r :: after ∧ (∀ q ∈ before, q.Resolves v m b) ∧
        ¬ r.Resolves v m b ∧ e = r.fault m := by
  rw [check_eq_forM, forM_eq_error_iff]
  simp only [resolve_eq_ok_iff]
  constructor
  · rintro ⟨before, r, after, hsplit, hbefore, hr⟩
    have hnot : ¬ r.Resolves v m b := by
      intro h
      rw [resolve_of_resolves h] at hr
      cases hr
    rw [resolve_of_not_resolves hnot] at hr
    exact ⟨before, r, after, hsplit, hbefore, hnot, (Except.error.inj hr).symm⟩
  · rintro ⟨before, r, after, hsplit, hbefore, hnot, rfl⟩
    exact ⟨before, r, after, hsplit, hbefore, resolve_of_not_resolves hnot⟩

/-! ### After the check -/

/-- The ends of an operation's message as they are looked up when it is counted. -/
def endsOf (m : MetaModel) : Operation → Except SequencingError (EntityRef × EntityRef)
  | .send s => sendEnds m s
  | .receive r => receiveEnds m r

theorem endsOf_of_ends? {m : MetaModel} {o : Operation} {ends : EntityRef × EntityRef}
    (h : o.ends? m = some ends) : endsOf m o = .ok ends := by
  cases o with
  | send s =>
    obtain ⟨kind, hkind, rfl⟩ := Option.map_eq_some_iff.1 h
    simp [endsOf, sendEnds, MetaModel.targetKind, hkind, Except.map]
  | receive r =>
    obtain ⟨kind, hkind, rfl⟩ := Option.map_eq_some_iff.1 h
    simp [endsOf, receiveEnds, MetaModel.sourceKind, hkind, Except.map]

/-- If all references resolve, every operation has a type that the meta-model knows, and its ends are
known. -/
theorem ends?_of_resolves {v : View} {m : MetaModel} {b : Batch}
    (h : ∀ r ∈ b.references, r.Resolves v m b) {o : Operation} (ho : o ∈ b.operations) :
    ∃ ends, o.ends? m = some ends ∧ v.Known b ends.1 ∧ v.Known b ends.2 := by
  rw [Batch.operations, List.mem_append, List.mem_map, List.mem_map] at ho
  rcases ho with ⟨s, hs, rfl⟩ | ⟨r, hr, rfl⟩
  · have hmem : ∀ q ∈ [Reference.actor s.performer, .target s.type s.target], q ∈ b.references := by
      intro q hq
      simp only [Batch.references, List.mem_append, List.mem_flatMap]
      exact .inl (.inr ⟨s, hs, hq⟩)
    have hperformer := h _ (hmem (.actor s.performer) (by simp))
    obtain ⟨kind, hkind, htarget⟩ := h _ (hmem (.target s.type s.target) (by simp))
    exact ⟨(⟨.activity, s.performer⟩, ⟨kind, s.target⟩), by rw [Operation.ends?, hkind, Option.map_some],
      hperformer, htarget⟩
  · have hmem : ∀ q ∈ [Reference.actor r.performer, .source r.type r.source], q ∈ b.references := by
      intro q hq
      simp only [Batch.references, List.mem_append, List.mem_flatMap]
      exact .inr ⟨r, hr, hq⟩
    have hperformer := h _ (hmem (.actor r.performer) (by simp))
    obtain ⟨kind, hkind, hsource⟩ := h _ (hmem (.source r.type r.source) (by simp))
    exact ⟨(⟨kind, r.source⟩, ⟨.activity, r.performer⟩), by rw [Operation.ends?, hkind, Option.map_some],
      hsource, hperformer⟩

end View

/-- Between which things the messages of a batch go. -/
def Batch.ends (m : MetaModel) (b : Batch) : List (EntityRef × EntityRef) :=
  b.operations.filterMap (Operation.ends? m)

namespace View

/-- The view with all that a batch announces, and with its messages counted. -/
def taken (v : View) (m : MetaModel) (b : Batch) : View :=
  (b.ends m).foldl countMessage
    { v with
      activities := v.activities.announceAll b.activities
      passives := v.passives.announceAll b.passiveEntities }

theorem countMessages_map_ok (es : List (EntityRef × EntityRef)) (v : View) :
    countMessages (es.map .ok) v = (es.foldl countMessage v, .ok ()) := by
  induction es generalizing v with
  | nil => rfl
  | cons e es ih => exact ih (v.countMessage e)

/-- After a check that found nothing, taking in the batch does not break off. -/
theorem apply_eq_taken {v : View} {m : MetaModel} {b : Batch} (h : v.check m b = .ok ()) :
    v.apply m b = (v.taken m b, .ok ()) := by
  rw [check_eq_ok_iff] at h
  have hlookups : ∀ os : List Operation, (∀ o ∈ os, o ∈ b.operations) →
      os.map (endsOf m) = (os.filterMap (Operation.ends? m)).map .ok := by
    intro os hos
    induction os with
    | nil => rfl
    | cons o os ih =>
      obtain ⟨ends, hends, -⟩ := ends?_of_resolves h (hos o (by simp))
      rw [List.map_cons, ih fun q hq => hos q (by simp [hq]), List.filterMap_cons_some hends,
        List.map_cons, endsOf_of_ends? hends]
  have hall : b.sends.map (sendEnds m) ++ b.receives.map (receiveEnds m) =
      (b.ends m).map .ok := by
    rw [Batch.ends, ← hlookups _ fun o ho => ho, Batch.operations, List.map_append, List.map_map,
      List.map_map]
    rfl
  rw [apply, hall, countMessages_map_ok, taken]

/-! ### Batches as a whole -/

theorem absorb_of_resolves {v : View} {m : MetaModel} {b : Batch} (hm : v.metaModel = some m)
    (h : ∀ r ∈ b.references, r.Resolves v m b) :
    (v.absorb b).answer = .ok () ∧ (v.absorb b).view = v.taken m b := by
  have hcheck := (check_eq_ok_iff v m b).2 h
  cases hempty : b.isEmpty with
  | false => simp [absorb, hm, hempty, hcheck, apply_eq_taken hcheck]
  | true =>
    obtain rfl := Batch.eq_empty_of_isEmpty hempty
    rw [absorb, hm]
    exact ⟨rfl, rfl⟩

theorem absorb_of_check_error {v : View} {m : MetaModel} {b : Batch} (hm : v.metaModel = some m)
    {e : SequencingError} (h : v.check m b = .error e) : v.absorb b = ⟨v, .error e, []⟩ := by
  obtain ⟨before, r, after, hsplit, -⟩ := (check_eq_error_iff v m b e).1 h
  have hempty : b.isEmpty = false := Batch.isEmpty_of_mem_references (r := r) (by simp [hsplit])
  simp [absorb, hm, hempty, h]

/-- Whether a batch is refused or not, it is taken in as a whole or leaves the view as it is. -/
theorem absorb_view (v : View) (b : Batch) :
    (v.absorb b).view = v ∨ ∃ m, (v.absorb b).view = v.taken m b := by
  cases hm : v.metaModel with
  | none =>
    rw [absorb, hm]
    exact .inl rfl
  | some m =>
    cases hcheck : v.check m b with
    | error e =>
      rw [absorb_of_check_error hm hcheck]
      exact .inl rfl
    | ok => exact .inr ⟨m, (absorb_of_resolves hm ((check_eq_ok_iff v m b).1 hcheck)).2⟩

/-- A batch is refused exactly if there is no meta-model or one of its references does not resolve. Then
the view is as before, and the error names the first such reference; otherwise the view has taken in the
whole batch. -/
theorem absorb_all_or_nothing (v : View) (b : Batch) :
    ((∃ e, (v.absorb b).answer = .error e) ↔
      v.metaModel = none ∨ ∃ m, v.metaModel = some m ∧ b.isEmpty = false ∧
        ∃ r ∈ b.references, ¬ r.Resolves v m b) ∧
    (∀ e, (v.absorb b).answer = .error e →
      (v.absorb b).view = v ∧
      (v.metaModel = none ∧ e = .noMetaModel ∨
        ∃ m before r after, v.metaModel = some m ∧ b.references = before ++ r :: after ∧
          (∀ q ∈ before, q.Resolves v m b) ∧ ¬ r.Resolves v m b ∧ e = r.fault m)) ∧
    (∀ m, v.metaModel = some m → (v.absorb b).answer = .ok () →
      (v.absorb b).view = v.taken m b) := by
  cases hm : v.metaModel with
  | none => simp [absorb, hm]
  | some m =>
    cases hcheck : v.check m b with
    | ok u =>
      have hall := (check_eq_ok_iff v m b).1 hcheck
      obtain ⟨hok, hview⟩ := absorb_of_resolves hm hall
      refine ⟨⟨?_, ?_⟩, ?_, ?_⟩
      · rintro ⟨e, he⟩
        rw [hok] at he
        cases he
      · rintro (hnone | ⟨m', hm', -, r, hr, hnot⟩)
        · cases hnone
        · obtain rfl := Option.some.inj hm'
          exact absurd (hall r hr) hnot
      · intro e he
        rw [hok] at he
        cases he
      · intro m' hm' _
        obtain rfl := Option.some.inj hm'
        exact hview
    | error e =>
      have habsorb := absorb_of_check_error hm hcheck
      obtain ⟨before, r, after, hsplit, hbefore, hnot, hfault⟩ := (check_eq_error_iff v m b e).1 hcheck
      have hr : r ∈ b.references := by rw [hsplit]; simp
      rw [habsorb]
      refine ⟨⟨fun _ => .inr ⟨m, rfl, Batch.isEmpty_of_mem_references hr, r, hr, hnot⟩,
        fun _ => ⟨e, rfl⟩⟩, ?_, ?_⟩
      · intro e' he'
        obtain rfl := Except.error.inj he'
        exact ⟨rfl, .inr ⟨m, before, r, after, rfl, hsplit, hbefore, hnot, hfault⟩⟩
      · intro m' _ hok
        cases hok

end View

end TraceGraph
