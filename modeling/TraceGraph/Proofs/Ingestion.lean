import TraceGraph.Proofs.Encoding
import TraceGraph.Proofs.Posts
import TraceGraph.Proofs.Session

/-! Ingestion through the interface. The plain form of a batch passes the check as that batch, and posting
it does and answers what ingesting the batch does and answers. -/

namespace TraceGraph

/-! ### The plain form of a batch -/

namespace Payload

open Checked

variable (refusal : Refusal)

theorem items_map {α : Type} {check : Json → Checked α} {f : α → Json} (h : ∀ a, check (f a) = pass a)
    (i : Nat) (as : List α) : items check i (as.map f) = pass as := by
  induction as generalizing i with
  | nil => rfl
  | cons a as ih =>
    rw [List.map_cons, items, h, ih]
    rfl

theorem list_map {α : Type} {check : Json → Checked α} {f : α → Json} (h : ∀ a, check (f a) = pass a)
    (as : List α) : Checked.list check (.list (as.map f)) = pass as :=
  items_map h 0 as

theorem activity_ofActivity (a : Activity) : activity refusal (ofActivity a) = pass a := by
  cases a with
  | mk id name type creator running => cases creator <;> rfl

theorem passiveEntity_ofPassiveEntity (e : PassiveEntity) :
    passiveEntity refusal (ofPassiveEntity e) = pass e := rfl

theorem sendOp_ofSendOp (s : SendOp) : sendOp refusal (ofSendOp s) = pass s := rfl

theorem receiveOp_ofReceiveOp (r : ReceiveOp) : receiveOp refusal (ofReceiveOp r) = pass r := rfl

/-- A batch passes the check in its plain form, and as the same batch. -/
theorem batch_ofBatch (b : Batch) : batch refusal (ofBatch b) = pass b := by
  have hactivities := list_map (activity_ofActivity refusal) b.activities
  have hpassives := list_map (passiveEntity_ofPassiveEntity refusal) b.passiveEntities
  have hsends := list_map (sendOp_ofSendOp refusal) b.sends
  have hreceives := list_map (receiveOp_ofReceiveOp refusal) b.receives
  change Batch.mk <$> (Checked.list (activity refusal) _).under (.field "activities")
    <*> (Checked.list (passiveEntity refusal) _).under (.field "passive_entities")
    <*> (Checked.list (sendOp refusal) _).under (.field "send_ops")
    <*> (Checked.list (receiveOp refusal) _).under (.field "receive_ops") = _
  rw [hactivities, hpassives, hsends, hreceives]
  rfl

end Payload

/-! ### The integers of a batch -/

def Activity.integers (a : Activity) : List Int := a.id :: a.type :: a.creator.toList

def PassiveEntity.integers (e : PassiveEntity) : List Int :=
  [e.id, e.type, e.origin.startLine, e.origin.startColumn, e.origin.charLength, e.creator]

def SendOp.integers (s : SendOp) : List Int := [s.type, s.performer, s.target]

def ReceiveOp.integers (r : ReceiveOp) : List Int := [r.type, r.performer, r.source]

def Batch.integers (b : Batch) : List Int :=
  b.activities.flatMap Activity.integers ++ b.passiveEntities.flatMap PassiveEntity.integers ++
    b.sends.flatMap SendOp.integers ++ b.receives.flatMap ReceiveOp.integers

namespace Payload

open Json Numeral

/-- The bodies of requests may be nested to any depth. -/
theorem levels_unbounded : (⟨none, some digitLimit⟩ : Limits).levels ≠ some 0 := (Option.some_ne_none 0).symm

theorem readsBack_ofInt? {n : Option Int} (h : ∀ m ∈ n.toList, IsReadable m) :
    ReadsBack ⟨none, some digitLimit⟩ (ofInt? n) := by
  cases n with
  | none => exact readsBack_null
  | some n => exact readsBack_int (h n List.mem_cons_self).fits

theorem readsBack_ofActivity {a : Activity} (h : ∀ n ∈ a.integers, IsReadable n) :
    ReadsBack ⟨none, some digitLimit⟩ (ofActivity a) := by
  have hkeys : ["id", "name", "type", "creation_activity_id", "running"].Nodup := by decide
  simp only [Activity.integers, List.forall_mem_cons] at h
  obtain ⟨hid, htype, hcreator⟩ := h
  refine readsBack_object levels_unbounded hkeys ?_
  simp only [List.forall_mem_cons]
  exact ⟨readsBack_int hid.fits, readsBack_text a.name, readsBack_int htype.fits, readsBack_ofInt? hcreator,
    readsBack_bool a.running, List.forall_mem_nil _⟩

theorem readsBack_ofPassiveEntity {e : PassiveEntity} (h : ∀ n ∈ e.integers, IsReadable n) :
    ReadsBack ⟨none, some digitLimit⟩ (ofPassiveEntity e) := by
  have hkeys : ["id", "type", "origin", "creation_activity_id"].Nodup := by decide
  have horiginKeys : ["uri", "start_line", "start_column", "char_length"].Nodup := by decide
  simp only [PassiveEntity.integers, List.forall_mem_cons] at h
  obtain ⟨hid, htype, hline, hcolumn, hlength, hcreator, -⟩ := h
  have horigin : ReadsBack ⟨none, some digitLimit⟩ (ofSourceRange e.origin) := by
    refine readsBack_object levels_unbounded horiginKeys ?_
    simp only [List.forall_mem_cons]
    exact ⟨readsBack_text e.origin.uri, readsBack_int hline.fits, readsBack_int hcolumn.fits,
      readsBack_int hlength.fits, List.forall_mem_nil _⟩
  refine readsBack_object levels_unbounded hkeys ?_
  simp only [List.forall_mem_cons]
  exact ⟨readsBack_int hid.fits, readsBack_int htype.fits, horigin, readsBack_int hcreator.fits,
    List.forall_mem_nil _⟩

theorem readsBack_ofSendOp {o : SendOp} (h : ∀ n ∈ o.integers, IsReadable n) :
    ReadsBack ⟨none, some digitLimit⟩ (ofSendOp o) := by
  have hkeys : ["type", "creation_activity_id", "target_id"].Nodup := by decide
  simp only [SendOp.integers, List.forall_mem_cons] at h
  obtain ⟨htype, hperformer, htarget, -⟩ := h
  refine readsBack_object levels_unbounded hkeys ?_
  simp only [List.forall_mem_cons]
  exact ⟨readsBack_int htype.fits, readsBack_int hperformer.fits, readsBack_int htarget.fits,
    List.forall_mem_nil _⟩

theorem readsBack_ofReceiveOp {o : ReceiveOp} (h : ∀ n ∈ o.integers, IsReadable n) :
    ReadsBack ⟨none, some digitLimit⟩ (ofReceiveOp o) := by
  have hkeys : ["type", "creation_activity_id", "source_id"].Nodup := by decide
  simp only [ReceiveOp.integers, List.forall_mem_cons] at h
  obtain ⟨htype, hperformer, hsource, -⟩ := h
  refine readsBack_object levels_unbounded hkeys ?_
  simp only [List.forall_mem_cons]
  exact ⟨readsBack_int htype.fits, readsBack_int hperformer.fits, readsBack_int hsource.fits,
    List.forall_mem_nil _⟩

theorem readsBack_items {α : Type} {as : List α} {write : α → Json} {integers : α → List Int}
    (hwrite : ∀ a, (∀ n ∈ integers a, IsReadable n) → ReadsBack ⟨none, some digitLimit⟩ (write a))
    (h : ∀ n ∈ as.flatMap integers, IsReadable n) : ReadsBack ⟨none, some digitLimit⟩ (.list (as.map write)) := by
  refine readsBack_list levels_unbounded ?_
  intro v hv
  obtain ⟨a, ha, rfl⟩ := List.mem_map.1 hv
  exact hwrite a fun n hn => h n (List.mem_flatMap.2 ⟨a, ha, hn⟩)

/-- A batch whose integers are readable reads back from the text of its plain form. -/
theorem readsBack_ofBatch {b : Batch} (h : ∀ n ∈ b.integers, IsReadable n) :
    ReadsBack ⟨none, some digitLimit⟩ (ofBatch b) := by
  have hkeys : ["activities", "passive_entities", "send_ops", "receive_ops"].Nodup := by decide
  simp only [Batch.integers, List.forall_mem_append] at h
  obtain ⟨⟨⟨hactivities, hpassives⟩, hsends⟩, hreceives⟩ := h
  refine readsBack_object levels_unbounded hkeys ?_
  simp only [List.forall_mem_cons]
  exact ⟨readsBack_items (fun _ => readsBack_ofActivity) hactivities,
    readsBack_items (fun _ => readsBack_ofPassiveEntity) hpassives,
    readsBack_items (fun _ => readsBack_ofSendOp) hsends,
    readsBack_items (fun _ => readsBack_ofReceiveOp) hreceives, List.forall_mem_nil _⟩

end Payload

/-! ### Meta-models of a session -/

namespace View

variable {v : View} {past : History}

theorem absorb_metaModel (v : View) (b : Batch) : (v.absorb b).view.metaModel = v.metaModel := by
  rcases v.absorb_view b with h | ⟨m, h⟩
  · rw [h]
  · rw [h, View.taken, foldl_countMessage_metaModel]

theorem absorb_view_of_error {b : Batch} {e : SequencingError} (h : (v.absorb b).answer = .error e) :
    (v.absorb b).view = v := by
  cases hm : v.metaModel with
  | none => rw [absorb, hm]
  | some m =>
    cases hcheck : v.check m b with
    | error e' => rw [absorb_of_check_error hm hcheck]
    | ok =>
      rw [(absorb_of_resolves hm ((check_eq_ok_iff v m b).1 hcheck)).1] at h
      cases h

theorem assign_metaModel (v : View) (ref : NodeRef) (axis : Axis) (c : Number) :
    (v.assign ref axis c).metaModel = v.metaModel := by
  unfold View.assign
  split <;> rfl

theorem assignGiven_metaModel {w : View} {ref : NodeRef} {axis : Axis} {given : Option Json}
    (h : v.assignGiven ref axis given = .ok w) : w.metaModel = v.metaModel := by
  cases given with
  | none =>
    obtain rfl := Except.ok.inj h
    rfl
  | some c =>
    rw [assignGiven] at h
    cases hc : Fault.comparable c with
    | error e =>
      rw [hc] at h
      cases h
    | ok n =>
      rw [hc] at h
      obtain rfl := Except.ok.inj h
      exact v.assign_metaModel ref axis n

theorem Holds.move_metaModel (h : v.Holds past) (dataId : String) (x y : Option Json) :
    (v.move dataId x y).view.metaModel = v.metaModel := by
  obtain ⟨log, hlog⟩ := h.find dataId
  have hlisted : v.listed.metaModel = v.metaModel := rfl
  rw [View.move, hlog]
  cases past.nodes.find? (·.dataId = dataId) with
  | none => exact hlisted
  | some ref =>
    cases hx : v.listed.assignGiven ref .x x with
    | error e =>
      simp only [hx]
      exact hlisted
    | ok w =>
      have hw := (assignGiven_metaModel hx).trans hlisted
      cases hy : w.assignGiven ref .y y with
      | error e =>
        simp only [hx, hy]
        exact hw
      | ok u =>
        simp only [hx, hy]
        exact (assignGiven_metaModel hy).trans hw

end View

namespace Session

variable {s : Session} {past : History}

/-- The meta-model that is installed. -/
def metaModel? (s : Session) : Option MetaModel := s.view.bind View.metaModel

theorem metaModel?_reset (s : Session) : s.reset.session.metaModel? = s.metaModel? := by
  cases hv : s.view <;> simp [metaModel?, Session.reset, View.reset, View.new, hv]

/-- A view comes with a meta-model. -/
def Equipped (s : Session) : Prop := ∀ v, s.view = some v → v.metaModel ≠ none

theorem Equipped.withView {α : Type} (h : s.Equipped) {f : View → View × Except Error α × List Log.Record}
    (hf : ∀ v, s.view = some v → (f v).1.metaModel = v.metaModel) : (s.withView f).session.Equipped := by
  cases hv : s.view with
  | none =>
    rw [Session.withView, hv]
    exact h
  | some v =>
    intro w hw
    simp only [Session.withView, hv, Option.some.injEq] at hw
    rw [← hw, hf v hv]
    exact h v hv

theorem equipped_install (s : Session) (m : MetaModel) : (s.install m).session.Equipped := by
  intro w hw
  unfold Session.install at hw
  cases hv : s.view <;>
  · rw [hv] at hw
    obtain rfl := Option.some.inj hw
    exact Option.some_ne_none m

theorem Holds.view (h : s.Holds past) {v : View} (hv : s.view = some v) : v.Holds past := by
  rwa [Holds, hv] at h

theorem Equipped.step (h : s.Equipped) (hs : s.Holds past) (op : Op) : (op.run s).Equipped := by
  cases op with
  | start files =>
    rw [Op.run, Session.start]
    split
    · exact h
    · split
      · exact h
      · exact equipped_install s _
  | stop => rintro v ⟨⟩
  | reset =>
    rw [Op.run, Session.reset]
    split
    · next v hv =>
      rintro w ⟨⟩
      exact h v hv
    · exact h
  | install m => exact equipped_install s m
  | ingest b => exact h.withView fun v _ => v.absorb_metaModel b
  | snapshot =>
    apply h.withView
    intro v hv
    obtain ⟨shot, log, hshot⟩ := (hs.view hv).snapshot
    rw [hshot]
    rfl
  | stats => exact h.withView fun _ _ => rfl
  | move dataId x y => exact h.withView fun v hv => (hs.view hv).move_metaModel dataId (some x) (some y)

theorem Equipped.run (h : s.Equipped) (hs : s.Holds past) (ops : List Op) : (run ops s).Equipped := by
  induction ops generalizing s past with
  | nil => exact h
  | cons op ops ih => exact ih (h.step hs op) (hs.step op)

/-- Every session that a client can reach has a meta-model as soon as it has a view. -/
theorem equipped_run (path : Option String) (ops : List Op) : (run ops (new path)).Equipped :=
  Equipped.run (by rintro v ⟨⟩) (holds_new path) ops

theorem Equipped.metaModel?_eq_none_iff (h : s.Equipped) : s.metaModel? = none ↔ s.view = none := by
  cases hv : s.view with
  | none => simp [metaModel?, hv]
  | some v => simp [metaModel?, hv, h v hv]

end Session

namespace Service

theorem serveSession_traceData {body : Json} {b : Batch} (h : Payload.batch Payload.asBody body = .pass b)
    (s : Session) : serveSession s .traceData (some body) = ingestBatch s b := by
  rw [serveSession, withBody, h]

theorem ingest_of_view {s : Session} {v : View} (hv : s.view = some v) (b : Batch) :
    s.ingest b = ⟨{ s with view := some (v.absorb b).view },
      (v.absorb b).answer.mapError fun e => .fault (.sequencing e), (v.absorb b).log⟩ := by
  rw [Session.ingest, Session.withView, hv]

theorem ingestBatch_of_absorbed {s : Session} {v : View} (hv : s.view = some v) {b : Batch}
    (h : (v.absorb b).answer = .ok ()) :
    ingestBatch s b = ({ s with view := some (v.absorb b).view },
      .ok (.object [("status", .text "ok"), ("stats", (v.absorb b).view.stats.toJson)])) := by
  rw [ingestBatch, ingest_of_view hv, h]
  rfl

/-- A batch that is posted in its plain form is ingested as it stands. Its text is read as that form, the
form passes the check as that batch, and the session is afterwards what it is after ingesting it. Without a
meta-model the post is answered 409, a batch that breaks the sequencing 422 with the reason, and neither
changes anything; any other batch is answered 200 with the seven counters of the view after it. -/
theorem handle_post_ofBatch (s : Service) {path : Option String} {ops : List Session.Op}
    (hs : s.session = Session.run ops (Session.new path)) {b : Batch}
    (hb : ∀ n ∈ b.integers, Numeral.IsReadable n) (headers : List (String × String)) :
    let post := Payload.ofBatch b
    let r := s.handle (.post "/api/trace-data" (some post) headers)
    Json.read post.write = .ok post ∧ Payload.batch Payload.asBody post = .pass b ∧
    r.1 = { s with session := (s.session.ingest b).session } ∧
    ((s.session.ingest b).answer = .error .notInstalled ↔ s.session.metaModel? = none) ∧
    match (s.session.ingest b).answer with
    | .ok () => r.2.status = 200 ∧ ∃ v, r.1.session.view = some v ∧
        r.2.content = .json (.object [("status", .text "ok"), ("stats", .object [
          ("activities", .int v.stats.activities), ("passive_entities", .int v.stats.passiveEntities),
          ("activity_groups", .int v.stats.activityGroups),
          ("passive_entity_groups", .int v.stats.passiveEntityGroups),
          ("promoted_groups", .int v.stats.promotedGroups), ("message_pairs", .int v.stats.messagePairs),
          ("messages", .int v.stats.messages)])])
    | .error .notInstalled => r.1 = s ∧ r.2.status = 409 ∧
        r.2.content = .json (.object [("detail", .text "Meta-model not installed")])
    | .error (.fault (.sequencing e)) => r.1 = s ∧ r.2.status = 422 ∧
        r.2.content = .json (.object [("detail", .text e.message)])
    | .error _ => False := by
  have hequipped : s.session.Equipped := hs ▸ Session.equipped_run path ops
  have hpath : ("/api/trace-data", Route.traceData) ∈ postPaths := by decide
  obtain ⟨added, hhandle⟩ := s.handle_post hpath (some (Payload.ofBatch b)) headers
  have hpass := Payload.batch_ofBatch Payload.asBody b
  have hserved : s.serveRoute .traceData (some (Payload.ofBatch b)) =
      ({ s with session := (ingestBatch s.session b).1 }, (ingestBatch s.session b).2) := by
    rw [← serveSession_traceData hpass]
    rfl
  intro post r
  have hr : r = _ := hhandle
  rw [hserved] at hr
  refine ⟨Json.read_write (Payload.readsBack_ofBatch hb), hpass, by rw [hr]; rfl, ?_⟩
  rw [hequipped.metaModel?_eq_none_iff, hr]
  cases hv : s.session.view with
  | none =>
    have hingest : s.session.ingest b = ⟨s.session, .error .notInstalled, []⟩ := by
      rw [Session.ingest, Session.withView, hv]
    rw [ingestBatch, hingest]
    exact ⟨⟨fun _ => rfl, fun _ => rfl⟩, rfl, rfl, rfl⟩
  | some v =>
    cases hanswer : (v.absorb b).answer with
    | ok =>
      rw [ingestBatch_of_absorbed hv hanswer, ingest_of_view hv, hanswer]
      exact ⟨by simp [Except.mapError], rfl, (v.absorb b).view, rfl, rfl⟩
    | error e =>
      have hsame : ({ s with session := { s.session with view := some (v.absorb b).view } } : Service) = s := by
        rw [View.absorb_view_of_error hanswer, ← hv]
      rw [ingestBatch, ingest_of_view hv, hanswer]
      exact ⟨by simp [Except.mapError], hsame, rfl, rfl⟩

/-- A batch with a root, a stopped worker and a channel is posted to a session with a meta-model. The answer
counts them and their groups. -/
theorem handle_post_ofBatch_workers :
    let s := Service.new (Session.run [.install ⟨Table.empty, Table.empty⟩] (Session.new none)) none
    let b : Batch := ⟨[⟨1, "Main", 0, none, true⟩, ⟨2, "Größe \"2\"", 1, some 1, false⟩],
      [⟨3, 2, ⟨"main.py", 4, -1, 0⟩, 1⟩], [], []⟩
    let r := s.handle (.post "/api/trace-data" (some (Payload.ofBatch b)) [("Origin", "null")])
    (∀ n ∈ b.integers, Numeral.IsReadable n) ∧
      Json.read (Payload.ofBatch b).write = .ok (Payload.ofBatch b) ∧
      r.1.session = (s.session.ingest b).session ∧ r.2.status = 200 ∧
      r.2.content = .json (.object [("status", .text "ok"), ("stats", .object [("activities", .int 2),
        ("passive_entities", .int 1), ("activity_groups", .int 2), ("passive_entity_groups", .int 1),
        ("promoted_groups", .int 0), ("message_pairs", .int 0), ("messages", .int 0)])]) := by
  intro s b r
  have hb : ∀ n ∈ b.integers, Numeral.IsReadable n := by decide
  have hanswer : (s.session.ingest b).answer = .ok () := by rfl
  obtain ⟨hread, -, hsession, -, hcase⟩ := handle_post_ofBatch s rfl hb [("Origin", "null")]
  rw [hanswer] at hcase
  obtain ⟨hstatus, v, hview, hcontent⟩ := hcase
  have hstats : v.stats = ⟨2, 1, 2, 1, 0, 0, 0⟩ := by
    have hall : (s.session.ingest b).session.view.map View.stats = some ⟨2, 1, 2, 1, 0, 0, 0⟩ := rfl
    rw [hsession] at hview
    rw [hview] at hall
    exact Option.some.inj hall
  rw [hstats] at hcontent
  exact ⟨hb, hread, congrArg Service.session hsession, hstatus, hcontent⟩

end Service

end TraceGraph
