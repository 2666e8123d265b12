import TraceGraph.Proofs.Ingestion

/-! The life of a session. A view comes with the first meta-model after a stop and goes with the next stop;
in between, other meta-models take the place of the first and leave all trace data alone. A session that was
stopped is a new one, and a session that was reset is a new one with its meta-model installed, so nothing of
what was absorbed, promoted, counted or moved before shows in anything that it answers later. -/

namespace TraceGraph

/-- The second view has the trace data of the first, whatever its meta-model. -/
structure View.SameData (v w : View) : Prop where
  activities : w.activities = v.activities
  passives : w.passives = v.passives
  messages : w.messages = v.messages
  maxSends : w.maxSends = v.maxSends
  maxLink : w.maxLink = v.maxLink

/-- Every node is the same, and stands where it stood. -/
theorem View.SameData.node? {v w : View} (h : v.SameData w) (ref : NodeRef) : w.node? ref = v.node? ref := by
  rw [node?_eq_or, node?_eq_or, h.activities, h.passives]

namespace Session

variable {path : Option String} {s : Session}

/-! ### Answers -/

/-- What an operation answers. -/
inductive Result
  | done (answer : Except Error Unit)
  | shown (answer : Except Error Snapshot)
  | counted (answer : Except Error Stats)
  | moved (answer : Except Error (Option NodeSummary))

def failure? {α : Type} : Except Error α → Option Error
  | .error e => some e
  | .ok _ => none

theorem failure?_eq_some_iff {α : Type} {answer : Except Error α} {e : Error} :
    failure? answer = some e ↔ answer = .error e := by
  cases answer <;> simp [failure?]

/-- The error that was answered, if there was one. -/
def Result.error? : Result → Option Error
  | done answer => failure? answer
  | shown answer => failure? answer
  | counted answer => failure? answer
  | moved answer => failure? answer

/-- What an operation answers, and the records that it writes. -/
def Op.result (s : Session) : Op → Result × List Log.Record
  | .start files => (.done (s.start files).answer, (s.start files).log)
  | .stop => (.done s.stop.answer, s.stop.log)
  | .reset => (.done s.reset.answer, s.reset.log)
  | .install m => (.done (s.install m).answer, (s.install m).log)
  | .ingest b => (.done (s.ingest b).answer, (s.ingest b).log)
  | .snapshot => (.shown s.snapshot.answer, s.snapshot.log)
  | .stats => (.counted s.stats.answer, s.stats.log)
  | .move dataId x y => (.moved (s.move dataId x y).answer, (s.move dataId x y).log)

/-- What operations answer and write one after the other. -/
def results : List Op → Session → List (Result × List Log.Record)
  | [], _ => []
  | op :: ops, s => op.result s :: results ops (op.run s)

/-- Whether an operation is answered from the view. -/
def Op.asksView : Op → Bool
  | .ingest _ | .snapshot | .stats | .move .. => true
  | .start _ | .stop | .reset | .install _ => false

/-! ### Meta-models -/

/-- The meta-model that an operation installs: the one given, or the one that the configured file declares
when the session is started. -/
def Op.installs? (path : Option String) : Op → Option MetaModel
  | .install m => some m
  | .start files => path.bind fun p => (fileMetaModel files p).toOption
  | _ => none

/-- The meta-model that is installed after one more operation. -/
def Op.leaves (path : Option String) (current : Option MetaModel) : Op → Option MetaModel
  | .stop => none
  | op => (op.installs? path).or current

/-- The meta-model that was installed last, unless a stop came after it. -/
def current? (path : Option String) (ops : List Op) : Option MetaModel := ops.foldl (Op.leaves path) none

/-- A meta-model was installed, and no stop has come since. -/
def Installed (path : Option String) (ops : List Op) : Prop :=
  ∃ before op after, ops = before ++ op :: after ∧ (op.installs? path).isSome ∧ ∀ o ∈ after, o ≠ .stop

theorem installed_snoc (path : Option String) (ops : List Op) (op : Op) :
    Installed path (ops ++ [op]) ↔ (op.installs? path).isSome ∨ op ≠ .stop ∧ Installed path ops := by
  constructor
  · rintro ⟨before, o, after, hops, ho, hafter⟩
    -- the operation at the end is the one that installed, or comes after it
    rcases List.eq_nil_or_concat after with rfl | ⟨after, last, rfl⟩
    · obtain ⟨-, hlast⟩ := List.append_inj' hops rfl
      obtain rfl := (List.cons.inj hlast).1
      exact .inl ho
    · rw [List.concat_eq_append, ← List.cons_append, ← List.append_assoc] at hops
      obtain ⟨rfl, hlast⟩ := List.append_inj' hops rfl
      obtain rfl := (List.cons.inj hlast).1
      rw [List.concat_eq_append, List.forall_mem_append, List.forall_mem_singleton] at hafter
      exact .inr ⟨hafter.2, before, o, after, rfl, ho, hafter.1⟩
  · rintro (hop | ⟨hstop, before, o, after, rfl, ho, hafter⟩)
    · exact ⟨ops, op, [], rfl, hop, List.forall_mem_nil _⟩
    · exact ⟨before, o, after ++ [op], by simp, ho,
        List.forall_mem_append.2 ⟨hafter, List.forall_mem_singleton.2 hstop⟩⟩

theorem isSome_leaves (path : Option String) (current : Option MetaModel) (op : Op) :
    (op.leaves path current).isSome ↔ (op.installs? path).isSome ∨ op ≠ .stop ∧ current.isSome := by
  cases op <;> simp [Op.leaves, Op.installs?]

theorem isSome_current?_iff (path : Option String) (ops : List Op) :
    (current? path ops).isSome ↔ Installed path ops := by
  induction ops using List.reverseRecOn with
  | nil =>
    simp only [current?, List.foldl_nil, Option.isSome_none, Bool.false_eq_true, false_iff]
    rintro ⟨before, op, after, hops, -⟩
    simp at hops
  | append_singleton ops op ih =>
    rw [current?, List.foldl_append, List.foldl_cons, List.foldl_nil, ← current?, isSome_leaves,
      installed_snoc, ih]

/-! ### One operation -/

/-- A start installs what the configured file declares, or it leaves the session as it was; it fails if
there is a configured file that declares nothing. -/
theorem start_cases (s : Session) (files : Files) :
    (∃ m, (Op.start files).installs? s.capabilitiesPath = some m ∧ (s.start files).answer = .ok () ∧
        (s.start files).session = (s.install m).session) ∨
      (Op.start files).installs? s.capabilitiesPath = none ∧ (s.start files).session = s ∧
        ((s.start files).answer = .ok () ↔ s.capabilitiesPath = none) := by
  rw [Op.installs?, Session.start]
  cases hp : s.capabilitiesPath with
  | none => exact .inr ⟨rfl, rfl, iff_of_true rfl rfl⟩
  | some p =>
    cases hm : fileMetaModel files p with
    | error e => exact .inr ⟨by simp [hm, Except.toOption], by simp [hm], by simp [hm]⟩
    | ok m => exact .inl ⟨m, by simp [hm, Except.toOption], by simp [hm, install], by simp [hm]⟩

theorem start_answer_ok_iff (s : Session) (files : Files) : (s.start files).answer = .ok () ↔
    s.capabilitiesPath = none ∨ ((Op.start files).installs? s.capabilitiesPath).isSome := by
  obtain ⟨m, hm, hok, -⟩ | ⟨hnone, -, hok⟩ := s.start_cases files
  · simp [hm, hok]
  · simp [hnone, hok]

theorem start_session_of_error {files : Files} {e : Error} (h : (s.start files).answer = .error e) :
    (s.start files).session = s := by
  obtain ⟨m, -, hok, -⟩ | ⟨-, hsession, -⟩ := s.start_cases files
  · rw [hok] at h
    cases h
  · exact hsession

theorem install_installs (s : Session) (m : MetaModel) :
    ∃ w, (s.install m).session.view = some w ∧ w.metaModel = some m ∧
      ∀ v, s.view = some v → v.SameData w := by
  rw [Session.install]
  cases hv : s.view with
  | none => exact ⟨_, rfl, rfl, fun v h => by cases h⟩
  | some v =>
    refine ⟨_, rfl, rfl, ?_⟩
    rintro _ ⟨⟩
    exact ⟨rfl, rfl, rfl, rfl, rfl⟩

/-- What installs a meta-model succeeds, and a view that was there keeps its trace data. -/
theorem run_of_installs {op : Op} {m : MetaModel} (h : op.installs? s.capabilitiesPath = some m) :
    (op.result s).1.error? = none ∧ ∃ w, (op.run s).view = some w ∧ w.metaModel = some m ∧
      ∀ v, s.view = some v → v.SameData w := by
  cases op with
  | install m' =>
    obtain rfl := Option.some.inj h
    exact ⟨rfl, s.install_installs m'⟩
  | start files =>
    obtain ⟨m', hm', hok, hsession⟩ | ⟨hnone, -⟩ := s.start_cases files
    · obtain rfl := Option.some.inj (h.symm.trans hm')
      refine ⟨?_, ?_⟩
      · rw [Op.result, hok]
        rfl
      · rw [Op.run, hsession]
        exact s.install_installs m
    · rw [hnone] at h
      cases h
  | _ => cases h

section WithView
variable {α : Type} {f : View → View × Except Error α × List Log.Record}

theorem withView_of_none (h : s.view = none) :
    s.withView f = ⟨s, .error .notInstalled, []⟩ := by
  rw [Session.withView, h]

theorem withView_refuses_iff (hf : ∀ v, (f v).2.1 ≠ .error .notInstalled) :
    failure? (s.withView f).answer = some .notInstalled ↔ s.view = none := by
  rw [failure?_eq_some_iff]
  constructor
  · intro h
    cases hv : s.view with
    | none => rfl
    | some v =>
      rw [Session.withView, hv] at h
      exact absurd h (hf v)
  · intro h
    rw [withView_of_none h]

theorem withView_capabilitiesPath :
    (s.withView f).session.capabilitiesPath = s.capabilitiesPath := by
  unfold Session.withView
  cases s.view <;> rfl

theorem withView_metaModel? (hf : ∀ v, s.view = some v → (f v).1.metaModel = v.metaModel) :
    (s.withView f).session.metaModel? = s.metaModel? := by
  cases hv : s.view with
  | none => rw [withView_of_none hv]
  | some v =>
    simp only [Session.withView, metaModel?, hv, Option.bind_some]
    exact hf v hv

end WithView

theorem run_capabilitiesPath (s : Session) (op : Op) : (op.run s).capabilitiesPath = s.capabilitiesPath := by
  cases op with
  | start files =>
    obtain ⟨m, -, -, h⟩ | ⟨-, h, -⟩ := s.start_cases files
    · rw [Op.run, h]
      rfl
    · rw [Op.run, h]
  | reset =>
    rw [Op.run, Session.reset]
    cases s.view <;> rfl
  | stop | install => rfl
  | ingest | snapshot | stats | move => exact withView_capabilitiesPath

theorem Holds.metaModel?_run {past : History} (h : s.Holds past) (op : Op) :
    (op.run s).metaModel? = op.leaves s.capabilitiesPath s.metaModel? := by
  have hinstalls {m : MetaModel} {op : Op} (hm : op.installs? s.capabilitiesPath = some m) :
      (op.run s).metaModel? = (op.installs? s.capabilitiesPath).or s.metaModel? := by
    obtain ⟨-, w, hw, hmodel, -⟩ := run_of_installs hm
    rw [hm, metaModel?, hw, Option.bind_some, hmodel, Option.some_or]
  cases op with
  | start files =>
    obtain ⟨m, hm, -, -⟩ | ⟨hnone, hsame, -⟩ := s.start_cases files
    · exact hinstalls hm
    · rw [Op.run, hsame, Op.leaves, hnone, Option.none_or]
      simp
  | stop => rfl
  | reset => exact s.metaModel?_reset
  | install m => exact hinstalls rfl
  | ingest b => exact withView_metaModel? fun v _ => v.absorb_metaModel b
  | snapshot =>
    apply withView_metaModel?
    intro v hv
    obtain ⟨shot, log, hshot⟩ := (h.view hv).snapshot
    rw [hshot]
    rfl
  | stats => exact withView_metaModel? fun _ _ => rfl
  | move dataId x y =>
    exact withView_metaModel? fun v hv => (h.view hv).move_metaModel dataId (some x) (some y)

theorem mapError_ne_error {α ε ε' : Type} {x : Except ε α} {f : ε → ε'} {e : ε'} (h : ∀ e', f e' ≠ e) :
    x.mapError f ≠ .error e := by
  cases x <;> simp [Except.mapError, h]

theorem fileMetaModel_ne_notInstalled (files : Files) (p : String) :
    fileMetaModel files p ≠ .error .notInstalled := by
  intro h
  unfold fileMetaModel at h
  cases hf : files p with
  | none =>
    rw [hf] at h
    cases h
  | some text =>
    rw [hf] at h
    simp only at h
    cases hread : Json.readWithin (some nestingLimit) text with
    | error e => cases e <;> simp [hread] at h
    | ok capabilities =>
      rw [hread] at h
      exact mapError_ne_error nofun h

theorem start_answer_ne_notInstalled (s : Session) (files : Files) :
    (s.start files).answer ≠ .error .notInstalled := by
  intro h
  unfold Session.start at h
  cases hp : s.capabilitiesPath with
  | none => simp [hp] at h
  | some p =>
    cases hm : fileMetaModel files p with
    | ok m => simp [hp, hm, Session.install] at h
    | error e =>
      simp only [hp, hm, Except.error.injEq] at h
      exact fileMetaModel_ne_notInstalled files p (h ▸ hm)

/-- A session refuses just what it would have to answer from a view that is not there. -/
theorem refuses_iff (s : Session) (op : Op) :
    (op.result s).1.error? = some .notInstalled ↔ op.asksView ∧ s.view = none := by
  have hasks (h : op.asksView) {p : Prop} :
      (p ↔ op.asksView ∧ s.view = none) ↔ (p ↔ s.view = none) := by
    simp only [h, true_and]
  cases op with
  | start files =>
    simp [Op.result, Result.error?, failure?_eq_some_iff, Op.asksView, start_answer_ne_notInstalled]
  | stop => simp [Op.result, Result.error?, failure?_eq_some_iff, Op.asksView, Session.stop]
  | reset =>
    cases hv : s.view <;>
      simp [Op.result, Result.error?, failure?_eq_some_iff, Op.asksView, Session.reset, hv]
  | install m => simp [Op.result, Result.error?, failure?_eq_some_iff, Op.asksView, Session.install]
  | ingest b =>
    exact (hasks rfl).2 (withView_refuses_iff fun v => mapError_ne_error (by simp))
  | snapshot =>
    refine (hasks rfl).2 (withView_refuses_iff fun v => ?_)
    cases v.snapshot <;> simp
  | stats => exact (hasks rfl).2 (withView_refuses_iff fun v => by simp)
  | move dataId x y =>
    refine (hasks rfl).2 (withView_refuses_iff fun v => ?_)
    simp only
    split
    · simp
    · exact mapError_ne_error (by simp)
    · simp

theorem run_of_refused {op : Op} (hop : op.asksView) (h : s.view = none) : op.run s = s := by
  cases op with
  | start | stop | reset | install => cases hop
  | ingest | snapshot | stats | move => exact congrArg Reply.session (withView_of_none h)

/-! ### Runs -/

theorem capabilitiesPath_run (ops : List Op) (s : Session) :
    (run ops s).capabilitiesPath = s.capabilitiesPath := by
  induction ops generalizing s with
  | nil => rfl
  | cons op ops ih => exact (ih (op.run s)).trans (s.run_capabilitiesPath op)

theorem metaModel?_run (path : Option String) (ops : List Op) :
    (run ops (new path)).metaModel? = current? path ops := by
  induction ops using List.reverseRecOn with
  | nil => rfl
  | append_singleton ops op ih =>
    rw [run_append, run_cons, run_nil, (holds_run path ops).metaModel?_run op, capabilitiesPath_run, ih,
      current?, current?, List.foldl_append]
    rfl

theorem isSome_view_run_iff (path : Option String) (ops : List Op) :
    (run ops (new path)).view.isSome ↔ Installed path ops := by
  rw [← isSome_current?_iff, ← metaModel?_run, ← Option.ne_none_iff_isSome, ← Option.ne_none_iff_isSome,
    Ne, Ne, (equipped_run path ops).metaModel?_eq_none_iff]

theorem reset_eq_install {m : MetaModel} (h : s.metaModel? = some m) :
    s.reset.session = ((new s.capabilitiesPath).install m).session := by
  obtain ⟨v, hv, hm⟩ := Option.bind_eq_some_iff.1 h
  simp only [Session.reset, hv, View.reset, hm]
  rfl

/-- A session has a view just from an installation to the next stop. Without one, what would be answered
from it is refused, and nothing changes; a start that fails changes nothing either. An installation keeps
the trace data of a view, with every node and its place. After a stop all is answered as by a new session,
and after a reset as by a new session with the present meta-model installed. -/
theorem lifecycle (path : Option String) (ops : List Op) :
    let s := run ops (new path)
    (s.view.isSome ↔ Installed path ops) ∧
    s.metaModel? = current? path ops ∧
    Error.message .notInstalled = "Meta-model not installed" ∧
    (∀ op : Op, ((op.result s).1.error? = some .notInstalled ↔ op.asksView ∧ s.view = none) ∧
      (op.asksView → s.view = none → op.run s = s)) ∧
    (∀ files, ((s.start files).answer = .ok () ↔
        path = none ∨ ((Op.start files).installs? path).isSome) ∧
      ∀ e, (s.start files).answer = .error e → (s.start files).session = s) ∧
    (∀ (op : Op) (m : MetaModel), op.installs? path = some m → (op.result s).1.error? = none ∧
      ∃ w, (op.run s).view = some w ∧ w.metaModel = some m ∧
        ∀ v, s.view = some v → v.SameData w ∧ ∀ ref, w.node? ref = v.node? ref) ∧
    (∀ more, results more s.stop.session = results more (new path)) ∧
    ∀ v, s.view = some v → ∃ m, current? path ops = some m ∧
      ∀ more, results more s.reset.session = results more ((new path).install m).session := by
  intro s
  have hpath : s.capabilitiesPath = path := capabilitiesPath_run ops (new path)
  have hmodel : s.metaModel? = current? path ops := metaModel?_run path ops
  refine ⟨isSome_view_run_iff path ops, hmodel, rfl, fun op => ⟨s.refuses_iff op, run_of_refused⟩,
    fun files => ⟨?_, fun e => start_session_of_error⟩, ?_, ?_, ?_⟩
  · rw [← hpath]
    exact s.start_answer_ok_iff files
  · intro op m hm
    rw [← hpath] at hm
    obtain ⟨hok, w, hw, hwm, hdata⟩ := run_of_installs hm
    exact ⟨hok, w, hw, hwm, fun v hv => ⟨hdata v hv, (hdata v hv).node?⟩⟩
  · intro more
    have hstop : s.stop.session = new path := congrArg new hpath
    rw [hstop]
  · intro v hv
    have hinstalled : s.view.isSome := Option.isSome_of_eq_some hv
    rw [isSome_view_run_iff, ← isSome_current?_iff, Option.isSome_iff_exists] at hinstalled
    obtain ⟨m, hm⟩ := hinstalled
    refine ⟨m, hm, fun more => ?_⟩
    rw [reset_eq_install (hmodel.trans hm), hpath]

end Session

end TraceGraph
