import TraceGraph.Proofs.Coordinates

/-! Where seeds put the own nodes of one kind. A thing is put right of those that share its key and below as
many rows as there were keys before it came, and its node stays there until it is moved. Things of one key
are put apart. Things of two keys are put on one place if they are equally far right and no key came first
from the one on until the other came. -/

namespace TraceGraph

open Announcements Sequence Traced

/-! ### Ranks and rows -/

namespace Announcements

variable {α : Type} [Traced α] {as bs : List α} {a : α}

theorem length_keys_append_eq_iff :
    (keys (as ++ bs)).length = (keys as).length ↔ ∀ b ∈ bs, Traced.key b ∈ keys as := by
  have hkeys : keys (as ++ bs) = keys as ++ ((bs.map Traced.key).removeAll (as.map Traced.key)).eraseDups := by
    rw [keys, List.map_append, List.eraseDups_append, keys]
  rw [hkeys, List.length_append, Nat.add_eq_left, List.length_eq_zero_iff, List.eq_nil_iff_forall_not_mem]
  simp [keys, List.removeAll]

/-- How many announcements of its key there are once a thing is announced. -/
def rank (as : List α) (a : α) : Nat := (sharing (as ++ [a]) (Traced.key a)).length

/-- The later of two things of one key is further right. -/
theorem rank_lt_of_key_eq {pre mid : List α} {a b : α} (h : Traced.key a = Traced.key b) :
    rank pre a < rank (pre ++ a :: mid) b := by
  simp only [rank, sharing, List.filter_append, List.length_append, h, List.filter_cons, List.filter_nil,
    decide_true, if_true, List.length_cons, List.length_nil]
  omega

end Announcements

namespace Population

variable {α : Type} [Traced α] {limit : Int} {as bs pre post : List α} {a : α} {p : Population α}

/-- After further announcements the own node of a thing stands where its seed put it, if it did so before
as far as the thing was announced then. -/
theorem Holds.place?_announceAll_own (h : p.Holds limit as) (hids : ((as ++ bs).map Traced.id).Nodup)
    (hsplit : as ++ bs = pre ++ a :: post)
    (hbefore : ∀ post', as = pre ++ a :: post' →
      p.place? (ownRef a) = some (.seed (rank pre a) (Announcements.keys pre).length)) :
    (Population.announceAll bs p).place? (ownRef a) = some (.seed (rank pre a) (Announcements.keys pre).length) := by
  have hnew (pre' : List α) (hpre : pre = as ++ pre') (hb : bs = pre' ++ a :: post) :
      (Population.announceAll bs p).place? (ownRef a) = some (.seed (rank pre a) (Announcements.keys pre).length) := by
    have hpost : Traced.id a ∉ post.map Traced.id := by
      rw [hsplit, List.map_append, List.map_cons] at hids
      exact (List.nodup_cons.1 hids.of_append_right).1
    rw [hb, hpre, ownRef, h.place?_announceAll hpost, rank]
  -- the thing is among the further announcements or was announced before
  rcases List.append_eq_append_iff.1 hsplit with ⟨pre', hpre, hb⟩ | ⟨cs, hold, hrest⟩
  · exact hnew pre' hpre hb
  · rcases List.cons_eq_append_iff.1 hrest with ⟨rfl, hb⟩ | ⟨post', rfl, rfl⟩
    · rw [List.append_nil] at hold
      exact hnew [] (by rw [hold, List.append_nil]) hb
    · have ha : Traced.id a ∉ bs.map Traced.id := by
        rw [List.map_append, List.nodup_append] at hids
        exact fun hmem => hids.2.2 _ (by rw [hold]; simp) _ hmem rfl
      rw [ownRef, place?_announceAll_of_notMem ha]
      exact hbefore post' hold

end Population

namespace Position

/-- Whether a seed lies within the limits, so that it is not cut off. -/
def Unclamped (population groups : Nat) : Prop :=
  seed population groups = ⟨.whole (seedPoint population groups).1, .whole (seedPoint population groups).2⟩

instance (population groups : Nat) : Decidable (Unclamped population groups) :=
  inferInstanceAs (Decidable (_ = _))

theorem seed_eq_iff {n k n' k' : Nat} (h : Unclamped n k) (h' : Unclamped n' k') :
    seed n k = seed n' k' ↔ n = n' ∧ k = k' := by
  rw [h, h', Position.mk.injEq, Number.whole.injEq, Number.whole.injEq]
  simp only [seedPoint, horizontalDistance, verticalDistance]
  omega

end Position

namespace View

variable {v : View} {past : History} {op : Op} {ops : List Op} {m : Option MetaModel}

/-- Whether a node has not been moved since the view was last reset. -/
def Unmoved (m : Option MetaModel) (ops : List Op) (ref : NodeRef) : Prop :=
  ∀ before op after, ops = before ++ op :: after → .reset ∉ op :: after →
    (op.assignments (run before (new m))).to ref = []

theorem Unmoved.snoc {ref : NodeRef} (h : Unmoved m (ops ++ [op]) ref) (hop : op ≠ .reset) :
    Unmoved m ops ref ∧ (op.assignments (run ops (new m))).to ref = [] := by
  constructor
  · rintro before o after rfl hreset
    refine h before o (after ++ [op]) (by simp) ?_
    rw [← List.cons_append, List.mem_append, not_or]
    exact ⟨hreset, fun hmem => hop (List.mem_singleton.1 hmem).symm⟩
  · exact h ops op [] rfl fun hmem => hop (List.mem_singleton.1 hmem).symm

/-- Only moves move. -/
theorem unmoved_of_no_moves {ref : NodeRef} (h : ∀ dataId x y, .move dataId x y ∉ ops) : Unmoved m ops ref := by
  rintro before op after rfl -
  cases op with
  | move dataId x y => exact absurd (by simp) (h dataId x y)
  | _ => rfl

/-- Groups have no part in where the own nodes are. -/
theorem place?_own_congr {w : View} (hactivities : w.activities.table = v.activities.table)
    (hpassives : w.passives.table = v.passives.table) (e : EntityRef) :
    w.place? (.entity e) = v.place? (.entity e) := by
  obtain ⟨kind, id⟩ := e
  cases kind <;> simp only [place?, node?, Population.ownNode?, hactivities, hpassives]

namespace Part

variable {α : Type} [Traced α] (part : Part α)

/-- An operation leaves an own node where it is, but for what it assigns, or it is a batch that is absorbed. -/
theorem place?_own_run (h : v.Holds past) (hop : op ≠ .reset) (a : α) :
    (remember v past op = past ∧ (op.run v).view.place? (Population.ownRef a) =
      (v.place? (Population.ownRef a)).map (·.setAll ((op.assignments v).to (Population.ownRef a)))) ∨
    ∃ m b, remember v past op = past ++ [⟨m, b⟩] ∧ (op.run v).view.place? (Population.ownRef a) =
      (Population.announceAll (part.ofBatch b) (part.population v)).place? (Population.ownRef a) := by
  have hstill (o : Option Position) : o = o.map (·.setAll (Assignments.to [] (Population.ownRef a))) :=
    Option.map_id'.symm
  have hlisted : v.listed.place? (Population.ownRef a) = v.place? (Population.ownRef a) := by
    apply place?_own_congr <;> rfl
  cases op with
  | reset => exact absurd rfl hop
  | ingest b =>
    obtain ⟨hview, hpast⟩ | ⟨m, -, -, hview, hpast⟩ := v.absorb_cases past b
    · refine .inl ⟨hpast, ?_⟩
      rw [Op.run, hview]
      exact hstill _
    · refine .inr ⟨m, b, hpast, ?_⟩
      rw [Op.run, hview, part.place? _ rfl, part.taken]
  | move dataId x y =>
    refine .inl ⟨rfl, ?_⟩
    rw [Op.run, h.view_move_eq, place?_assignAll, hlisted]
  | setRunning dataId ids running =>
    refine .inl ⟨rfl, ?_⟩
    rw [h.view_run, Op.effect]
    refine Eq.trans ?_ (hstill _)
    cases past.nodes.find? (·.dataId = dataId) with
    | none => exact hlisted
    | some ref => exact (h.listed.place?_setRunning ref ids running _).trans hlisted
  | setMetaModel | listActivities | listPassives | links | find | visible =>
    refine .inl ⟨rfl, ?_⟩
    rw [h.view_run]
    refine Eq.trans ?_ (hstill _)
    apply place?_own_congr <;> rfl

theorem announced_nil : part.announced [] = [] := by
  have hlength := congrArg List.length (part.append [] [])
  rw [List.append_nil, List.length_append, left_eq_add] at hlength
  exact List.length_eq_zero_iff.1 hlength

/-- As long as no id comes twice, an own node that was not moved stands where its seed put it: right of the
things of its key and below as many rows as there were keys before it. -/
theorem place?_unmoved {pre post : List α} {a : α} (hsplit : part.announced (history m ops) = pre ++ a :: post)
    (hids : ((part.announced (history m ops)).map Traced.id).Nodup)
    (hmoved : Unmoved m ops (Population.ownRef a)) :
    (run ops (new m)).place? (Population.ownRef a) = some (.seed (rank pre a) (keys pre).length) := by
  induction ops using List.reverseRecOn generalizing post with
  | nil => exact absurd (part.announced_nil.symm.trans hsplit) (by simp)
  | append_singleton ops op ih =>
    have h := holds_run m ops
    rw [history_snoc] at hsplit hids
    -- the last operation was no reset, or nothing would be announced
    by_cases hop : op = .reset
    · subst hop
      exact absurd (part.announced_nil.symm.trans hsplit) (by simp)
    obtain ⟨hbefore, hnow⟩ := hmoved.snoc hop
    rw [run_snoc]
    obtain ⟨hpast, hplace⟩ | ⟨m', b, hpast, hplace⟩ := part.place?_own_run h hop a
    · rw [hpast] at hsplit hids
      rw [hplace, ih hsplit hids hbefore, hnow]
      rfl
    · rw [hpast, part.append, part.singleton] at hsplit hids
      rw [hplace]
      refine (part.holds h).place?_announceAll_own hids hsplit fun post' hold => ?_
      rw [← part.place? _ rfl]
      rw [List.map_append, List.nodup_append] at hids
      exact ih hold hids.1 hbefore

/-- Own nodes of one kind that were not moved stand where their seeds put them. Two whose seeds were not cut
off stand on one place exactly if the things are equally far right and no key came first from the earlier one
on until the later one came. Things of one key stand apart. -/
def SeededApart (m : Option MetaModel) (ops : List Op) : Prop :=
  ∀ pre a mid b post, part.announced (history m ops) = pre ++ a :: (mid ++ b :: post) →
    Unmoved m ops (Population.ownRef a) → Unmoved m ops (Population.ownRef b) →
    Position.Unclamped (rank pre a) (keys pre).length →
    Position.Unclamped (rank (pre ++ a :: mid) b) (keys (pre ++ a :: mid)).length →
    let p : Position := .seed (rank pre a) (keys pre).length
    let q : Position := .seed (rank (pre ++ a :: mid) b) (keys (pre ++ a :: mid)).length
    ((run ops (new m)).place? (Population.ownRef a) = some p ∧
      (run ops (new m)).place? (Population.ownRef b) = some q) ∧
    (p = q ↔ rank pre a = rank (pre ++ a :: mid) b ∧ ∀ c ∈ a :: mid, Traced.key c ∈ keys pre) ∧
    (Traced.key a = Traced.key b → p ≠ q)

theorem seededApart (hids : ((part.announced (history m ops)).map Traced.id).Nodup) : part.SeededApart m ops := by
  intro pre a mid b post hsplit ha hb hfa hfb p q
  have hsplit' : part.announced (history m ops) = (pre ++ a :: mid) ++ b :: post := by
    rw [hsplit, List.append_assoc, List.cons_append]
  have hmeet : p = q ↔ rank pre a = rank (pre ++ a :: mid) b ∧ ∀ c ∈ a :: mid, Traced.key c ∈ keys pre := by
    rw [Position.seed_eq_iff hfa hfb, ← length_keys_append_eq_iff, eq_comm (a := (keys pre).length)]
  refine ⟨⟨part.place?_unmoved hsplit hids ha, part.place?_unmoved hsplit' hids hb⟩, hmeet, ?_⟩
  intro hkey heq
  have hlt : rank pre a < rank (pre ++ a :: mid) b := rank_lt_of_key_eq hkey
  have hrank := (hmeet.1 heq).1
  omega

end Part

/-- As long as no id of a kind comes twice, seeds put the own nodes of the kind apart, but for things of two
keys that come equally far right with no new key in between. -/
theorem seeds_apart (m : Option MetaModel) (ops : List Op) :
    (((history m ops).activities.map Activity.id).Nodup → Part.activities.SeededApart m ops) ∧
    (((history m ops).passives.map PassiveEntity.id).Nodup → Part.passives.SeededApart m ops) :=
  ⟨Part.activities.seededApart, Part.passives.seededApart⟩

/-- Two names take turns. -/
def alternatingRun : List Op :=
  [.ingest ⟨[⟨1, "A", 0, none, true⟩, ⟨2, "B", 0, none, true⟩, ⟨3, "A", 0, none, true⟩, ⟨4, "B", 0, none, true⟩],
    [], [], []⟩, .listActivities]

/-- The second of each name are on one place, in a row of their own. -/
theorem seeds_meet :
    let m : MetaModel := ⟨Table.empty, Table.empty⟩
    let v := run alternatingRun (new m)
    (history m alternatingRun).activities.map Activity.id = [1, 2, 3, 4] ∧
    (∀ ref, Unmoved m alternatingRun ref) ∧ Position.Unclamped 2 2 ∧
    v.place? (.entity ⟨.activity, 3⟩) = some (.seed 2 2) ∧
    v.place? (.entity ⟨.activity, 4⟩) = some (.seed 2 2) := by
  intro m v
  have hmoves : ∀ dataId x y, Op.move dataId x y ∉ alternatingRun := fun _ _ _ => by simp [alternatingRun]
  exact ⟨by decide +kernel, fun _ => unmoved_of_no_moves hmoves, by decide +kernel, by decide +kernel,
    by decide +kernel⟩

end View

end TraceGraph
