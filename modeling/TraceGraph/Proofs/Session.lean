import TraceGraph.Proofs.Run
import TraceGraph.Proofs.Snapshot

/-! The history of a session: the batches that its view absorbed since its trace data was last discarded,
by a reset or with the view. A meta-model may be replaced in between, and what is refused or only read
leaves the history as it was. -/

namespace TraceGraph.Session

variable {s : Session} {past : History}

/-- A session holds the history of its view; without a view there is none. -/
def Holds (s : Session) (past : History) : Prop :=
  match s.view with
  | none => past = []
  | some v => v.Holds past

/-- The history after one more operation. -/
def remember (s : Session) (past : History) : Op → History
  | .stop | .reset => []
  | .ingest b =>
    match s.view with
    | none => past
    | some v => v.remember past (.ingest b)
  | _ => past

/-- The history after a list of operations on a session with a given history. -/
def historyAfter : List Op → Session → History → History
  | [], _, past => past
  | op :: ops, s, past => historyAfter ops (op.run s) (remember s past op)

/-- The batches that a run of a new session absorbed since its trace data was last discarded. -/
def history (path : Option String) (ops : List Op) : History := historyAfter ops (new path) []

theorem holds_new (path : Option String) : (new path).Holds [] := rfl

theorem Holds.install (h : s.Holds past) (m : MetaModel) : (s.install m).session.Holds past := by
  unfold Holds at h
  cases hv : s.view with
  | none =>
    rw [hv] at h
    obtain rfl := h
    rw [Session.install, hv]
    exact View.holds_new (some m)
  | some v =>
    rw [hv] at h
    rw [Session.install, hv]
    exact ⟨h.activities, h.passives, h.messages, h.closed⟩

theorem Holds.start (h : s.Holds past) (files : Files) : (s.start files).session.Holds past := by
  unfold Session.start
  split
  · exact h
  · split
    · exact h
    · exact h.install _

theorem Holds.withView {α : Type} (h : s.Holds past) {f : View → View × Except Error α × List Log.Record}
    (hf : ∀ v, v.Holds past → (f v).1.Holds past) : (s.withView f).session.Holds past := by
  cases hv : s.view with
  | none =>
    rw [Session.withView, hv]
    exact h
  | some v =>
    rw [Holds, hv] at h
    rw [Session.withView, hv]
    exact hf v h

theorem Holds.ingest (h : s.Holds past) (b : Batch) :
    (s.ingest b).session.Holds (remember s past (.ingest b)) := by
  unfold Holds at h
  cases hv : s.view with
  | none =>
    rw [hv] at h
    rw [Session.ingest, Session.withView, remember, hv]
    simpa only [Holds, hv] using h
  | some v =>
    rw [hv] at h
    rw [Session.ingest, Session.withView, remember, hv]
    exact h.absorb b

/-- One operation keeps the session and its history together. -/
theorem Holds.step (h : s.Holds past) (op : Op) : (op.run s).Holds (remember s past op) := by
  cases op with
  | start files => exact h.start files
  | stop => exact rfl
  | reset =>
    rw [Op.run, Session.reset]
    split
    · next v hv => exact View.holds_new v.metaModel
    · next hv => simp only [Holds, hv, remember]
  | install m => exact h.install m
  | ingest b => exact h.ingest b
  | snapshot =>
    apply h.withView
    intro v hv
    obtain ⟨shot, log, hlog⟩ := hv.snapshot
    rw [hlog]
    exact hv.settledWith past.messageLinks.max
  | stats => exact h.withView fun v hv => hv
  | move dataId x y => exact h.withView fun v hv => hv.move dataId (some x) (some y)

theorem Holds.run (h : s.Holds past) (ops : List Op) : (run ops s).Holds (historyAfter ops s past) := by
  induction ops generalizing s past with
  | nil => exact h
  | cons op ops ih => exact ih (h.step op)

/-- Every session that a client can reach holds the history of its run. -/
theorem holds_run (path : Option String) (ops : List Op) :
    (run ops (new path)).Holds (history path ops) :=
  (holds_new path).run ops

end TraceGraph.Session
