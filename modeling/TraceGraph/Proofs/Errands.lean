import TraceGraph.Proofs.Scenarios

/-! The errands of a scenario: its capabilities to one path, and round by round the batches of a new
program to another. Whoever answers, a post that is refused or reaches nobody is logged like one that is
taken; it breaks only by a failure of its own or by a good answer that cannot be read. -/

namespace TraceGraph

namespace Program

/-! ### What a program will tell -/

/-- The next batches as they are written. -/
def told : Nat → Program → List Json
  | 0, _ => []
  | n + 1, p => p.nextBatch.2 :: told n p.nextBatch.1

theorem length_told (n : Nat) (p : Program) : (p.told n).length = n := by
  induction n generalizing p with
  | zero => rfl
  | succ n ih => rw [told, List.length_cons, ih]

theorem length_workers_nextBatch (p : Program) : p.nextBatch.1.workers.length = p.workers.length + 1 := by
  rw [nextBatch_fst]
  exact List.length_append

theorem length_channels_nextBatch (p : Program) : p.nextBatch.1.channels.length = p.channels.length + 1 := by
  rw [nextBatch_fst]
  exact List.length_append

/-- Batches, each with what it is written as. -/
def Writes (bodies : List Json) (bs : List Batch) : Prop :=
  List.Forall₂ (fun body b => Payload.batch Payload.asBody body = .pass b) bodies bs

/-- A program that has announced its main activity goes on to tell of it. -/
theorem Underway.told {p : Program} {main : Activity} {bs : List Batch} (h : p.Underway main bs) (n : Nat) :
    ∃ more, Writes (p.told n) more ∧ Batch.Tells main (bs ++ more) := by
  induction n generalizing p bs with
  | zero => exact ⟨[], .nil, by simpa using h.tells⟩
  | succ n ih =>
    obtain ⟨more, hwrites, htells⟩ := ih h.next
    rw [Program.told, nextBatch_fst]
    refine ⟨p.batch :: more, .cons (p.batch_nextBatch _) hwrites, ?_⟩
    rwa [List.append_assoc, List.singleton_append] at htells

/-- The first batch of a new program announces its main activity. -/
theorem told_restart (p : Program) {n : Nat} (hn : 0 < n) :
    ∃ main bs, Writes (p.restart.told n) bs ∧ Batch.Tells main bs := by
  obtain ⟨n, rfl⟩ := Nat.exists_eq_succ_of_ne_zero hn.ne'
  have hfirst : p.restart.next.Underway p.restart.root [p.restart.batch] := underway_first rfl rfl
  obtain ⟨more, hwrites, htells⟩ := hfirst.told n
  rw [told, nextBatch_fst]
  exact ⟨_, p.restart.batch :: more, .cons (p.restart.batch_nextBatch _) hwrites, htells⟩

end Program

namespace Simulator

variable {σ : Type} {respond : Responder σ}

/-! ### Errands -/

/-- What is posted to which path. -/
structure Errand where
  path : String
  body : Json

def Errand.sent (apiUrl : String) (e : Errand) : Post := ⟨apiUrl ++ e.path, e.body⟩

/-- The next batches of a program. -/
def batches (n : Nat) (p : Program) : List Errand := (p.told n).map (⟨"/api/trace-data", ·⟩)

/-- What a scenario that is started has to post. -/
def errands (s : Simulator) : List Errand :=
  ⟨"/api/meta-model", Program.capabilities⟩ :: batches s.rounds.toNat s.program.restart

theorem length_errands (s : Simulator) : (s.errands.length : Int) = 1 + max 0 s.rounds := by
  rw [errands, batches, List.length_cons, List.length_map, Program.length_told]
  omega

/-- An errand that was run, and how the post was answered. -/
abbrev Visit := Errand × PostResult

/-- The status that a good answer tells, which may be none. -/
def toldStatus (ms : List (String × Json)) : String := (((Json.object ms).member? "status").getD .null).display

/-- What is logged of a post that does not break. -/
inductive Logged (path : String) : PostResult → Log.Record → Prop
  | answered (ms : List (String × Json)) : Logged path (.answered 200 (.object ms))
      (info s!"SIM: {path} -> {toldStatus ms}")
  | refused {status : Int} (h : status ≠ 200) (body : Json) : Logged path (.answered status body)
      (error s!"SIM: Error posting to {path}: {status}")
  | unreached (message : String) : Logged path (.unreached message)
      (error s!"SIM: Failed to post to {path}: {message}")

/-- A post breaks by a failure of its own, or by a good answer that is no object. -/
inductive Breaks : PostResult → PostError → Prop
  | broken (message : String) : Breaks (.broken message) (.broken message)
  | notAnObject {body : Json} (h : ∀ ms, body ≠ .object ms) :
    Breaks (.answered 200 body) (.notAnObject body)

theorem assess_cases (path : String) (result : PostResult) :
    (∃ r, assess path result = .ok r ∧ Logged path result r) ∨
      ∃ e, assess path result = .error e ∧ Breaks result e := by
  cases result with
  | unreached m => exact .inl ⟨_, rfl, .unreached m⟩
  | broken m => exact .inr ⟨_, rfl, .broken m⟩
  | answered status body =>
    by_cases hstatus : status = 200
    · subst hstatus
      cases body with
      | object ms => exact .inl ⟨_, rfl, .answered ms⟩
      | _ => exact .inr ⟨_, rfl, .notAnObject nofun⟩
    · exact .inl ⟨_, if_neg hstatus, .refused hstatus body⟩

section
variable {q : Progress σ} {e : Errand} {w : σ} {result : PostResult}

theorem post_of_answer (hclient : q.simulator.hasClient = true)
    (h : respond q.world (e.sent q.simulator.apiUrl) = (w, result)) {record : Log.Record}
    (hassess : assess e.path result = .ok record) : post respond e.path e.body q =
      (⟨q.simulator, w, q.posts ++ [e.sent q.simulator.apiUrl], q.log ++ [record]⟩, .ok ()) := by
  rw [Errand.sent] at h ⊢
  simp only [post, hclient, if_true, h, hassess]

theorem post_of_break (hclient : q.simulator.hasClient = true)
    (h : respond q.world (e.sent q.simulator.apiUrl) = (w, result)) {error : PostError}
    (hassess : assess e.path result = .error error) : post respond e.path e.body q =
      (⟨q.simulator, w, q.posts ++ [e.sent q.simulator.apiUrl], q.log⟩, .error error) := by
  rw [Errand.sent] at h ⊢
  simp only [post, hclient, if_true, h, hassess]

end

/-- The posts are answered one after the other, each by the world that the one before left. -/
inductive Answered (respond : Responder σ) (apiUrl : String) : σ → List Visit → σ → Prop
  | nil (w : σ) : Answered respond apiUrl w [] w
  | snoc {w w' w'' : σ} {visits : List Visit} {e : Errand} {result : PostResult}
    (h : Answered respond apiUrl w visits w') (hlast : respond w' (e.sent apiUrl) = (w'', result)) :
    Answered respond apiUrl w (visits ++ [(e, result)]) w''

/-- Each visit that did not break, with what is logged of it. -/
def Noted (done : List Visit) (records : List Log.Record) : Prop :=
  List.Forall₂ (fun v r => Logged v.1.path v.2 r) done records

theorem Noted.snoc {done : List Visit} {records : List Log.Record} (h : Noted done records) {e : Errand}
    {result : PostResult} {r : Log.Record} (hr : Logged e.path result r) :
    Noted (done ++ [(e, result)]) (records ++ [r]) :=
  List.rel_append h (.cons hr .nil)

/-- From one progress to another these errands were run and these records written. -/
structure Ran (respond : Responder σ) (p q : Progress σ) (done : List Visit) (records : List Log.Record) :
    Prop where
  world : Answered respond p.simulator.apiUrl p.world done q.world
  posts : q.posts = p.posts ++ done.map fun v => v.1.sent p.simulator.apiUrl
  log : q.log = p.log ++ records

section
variable {p q : Progress σ} {done : List Visit} {records : List Log.Record}

theorem Ran.of_same (h : Ran respond p q done records) {r : Progress σ} (hworld : r.world = q.world)
    (hposts : r.posts = q.posts) (hlog : r.log = q.log) : Ran respond p r done records :=
  ⟨hworld ▸ h.world, hposts.trans h.posts, hlog.trans h.log⟩

theorem Ran.refl (respond : Responder σ) (p : Progress σ) : Ran respond p p [] [] :=
  ⟨.nil p.world, (List.append_nil _).symm, (List.append_nil _).symm⟩

theorem Ran.finish (h : Ran respond p q done records) (r : Log.Record) :
    Ran respond p (finish q r) done (records ++ [r]) where
  world := h.world
  posts := h.posts
  log := by rw [Simulator.finish, h.log, List.append_assoc]

/-- One more errand is logged, or its post breaks. -/
theorem Ran.post (h : Ran respond p q done records) (hclient : q.simulator.hasClient = true)
    (hurl : q.simulator.apiUrl = p.simulator.apiUrl) (e : Errand) :
    ∃ result r, r.simulator = q.simulator ∧
      ((∃ record, Logged e.path result record ∧ post respond e.path e.body q = (r, .ok ()) ∧
          Ran respond p r (done ++ [(e, result)]) (records ++ [record])) ∨
        ∃ error, Breaks result error ∧ post respond e.path e.body q = (r, .error error) ∧
          Ran respond p r (done ++ [(e, result)]) records) := by
  rcases hanswer : respond q.world (e.sent q.simulator.apiUrl) with ⟨w, result⟩
  have hworld : Answered respond p.simulator.apiUrl p.world (done ++ [(e, result)]) w :=
    h.world.snoc (hurl ▸ hanswer)
  have hposts : q.posts ++ [e.sent q.simulator.apiUrl] =
      p.posts ++ (done ++ [(e, result)]).map fun v => v.1.sent p.simulator.apiUrl := by
    rw [h.posts, hurl, List.append_assoc, List.map_append, List.map_singleton]
  rcases assess_cases e.path result with ⟨record, hassess, hlogged⟩ | ⟨error, hassess, hbreaks⟩
  · refine ⟨result, ⟨q.simulator, w, q.posts ++ [e.sent q.simulator.apiUrl], q.log ++ [record]⟩, rfl,
      .inl ⟨record, hlogged, post_of_answer hclient hanswer hassess, hworld, hposts, ?_⟩⟩
    rw [h.log, List.append_assoc]
  · exact ⟨result, ⟨q.simulator, w, q.posts ++ [e.sent q.simulator.apiUrl], q.log⟩, rfl,
      .inr ⟨error, hbreaks, post_of_break hclient hanswer hassess, hworld, hposts, h.log⟩⟩

end

end Simulator

end TraceGraph
