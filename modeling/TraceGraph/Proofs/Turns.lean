import TraceGraph.Simulator

/-! Turns of a scenario, with a record of what is posted and answered in them. Keeping the record changes
nothing else: a scenario sees of the world only how its posts are answered. -/

namespace TraceGraph.Simulator

/-- A post and how it was answered. -/
abbrev Exchange := Post × PostResult

variable {σ τ : Type}

/-- The same progress in another world. -/
def Progress.map (f : σ → τ) (p : Progress σ) : Progress τ := ⟨p.simulator, f p.world, p.posts, p.log⟩

/-- What answers posts in one world answers alike in another. -/
def AnswersAlike (f : σ → τ) (respond : Responder σ) (respond' : Responder τ) : Prop :=
  ∀ w sent, respond' (f w) sent = (f (respond w sent).1, (respond w sent).2)

section Map
variable {f : σ → τ} {respond : Responder σ} {respond' : Responder τ}

theorem post_map (h : AnswersAlike f respond respond') (path : String) (body : Json) (p : Progress σ) :
    post respond' path body (p.map f) =
      ((post respond path body p).1.map f, (post respond path body p).2) := by
  have hanswer := h p.world ⟨p.simulator.apiUrl ++ path, body⟩
  by_cases hclient : p.simulator.hasClient
  · simp only [post, Progress.map, if_pos hclient, hanswer]
    cases assess path (respond p.world ⟨p.simulator.apiUrl ++ path, body⟩).2 <;> rfl
  · simp [post, Progress.map, hclient]

theorem postBatch_map (h : AnswersAlike f respond respond') (p : Progress σ) :
    postBatch respond' (p.map f) = ((postBatch respond p).1.map f, (postBatch respond p).2) :=
  post_map h "/api/trace-data" p.simulator.nextBatch.2 { p with simulator := p.simulator.nextBatch.1 }

theorem runRounds_map (h : AnswersAlike f respond respond') (n : Nat) (p : Progress σ) :
    runRounds respond' n (p.map f) = (runRounds respond n p).map f := by
  induction n generalizing p with
  | zero => rfl
  | succ n ih =>
    have hgoing : (p.map f).simulator.going = p.simulator.going := rfl
    rw [runRounds, runRounds, postBatch_map h, hgoing]
    by_cases hg : p.simulator.going
    · rw [if_pos hg, if_pos hg]
      obtain ⟨q, e⟩ := postBatch respond p
      cases e with
      | error e => rfl
      | ok =>
        have hinterval : (q.map f).simulator.interval = q.simulator.interval := rfl
        dsimp only
        rw [hinterval]
        by_cases hi : q.simulator.interval.gtInt 0
        · rw [if_pos hi, if_pos hi]
          rfl
        · rw [if_neg hi, if_neg hi, ih]
    · rw [if_neg hg, if_neg hg]
      rfl

theorem begin_map (h : AnswersAlike f respond respond') (p : Progress σ) :
    begin respond' (p.map f) = (begin respond p).map f := by
  rw [begin, begin, post_map h]
  obtain ⟨q, e⟩ := post respond "/api/meta-model" Program.capabilities p
  cases e with
  | error e => rfl
  | ok => exact runRounds_map h q.simulator.rounds.toNat q

end Map

/-- What gives a scenario time: the turn that it waits for at its start, or the end of a sleep. -/
inductive Turn
  | settle
  | tick

def Turn.run (respond : Responder σ) : Turn → Progress σ → Progress σ
  | settle => Simulator.settle respond
  | tick => Simulator.tick respond

/-- What the scenario does in a turn: it begins, or runs the rounds that are left after its sleep. -/
theorem Turn.run_eq (respond : Responder σ) (t : Turn) (p : Progress σ) :
    t.run respond p = match p.simulator.scenario, t with
      | .ready, _ => begin respond p
      | .asleep n, .tick => runRounds respond n p
      | _, _ => p := by
  cases t with
  | settle =>
    rw [Turn.run, Simulator.settle]
    cases p.simulator.scenario <;> rfl
  | tick =>
    rw [Turn.run, Simulator.tick, Simulator.settle]
    cases p.simulator.scenario <;> rfl

theorem Turn.run_map {f : σ → τ} {respond : Responder σ} {respond' : Responder τ}
    (h : AnswersAlike f respond respond') (t : Turn) (p : Progress σ) :
    t.run respond' (p.map f) = (t.run respond p).map f := by
  have hscenario : (p.map f).simulator.scenario = p.simulator.scenario := rfl
  rw [Turn.run_eq, Turn.run_eq, hscenario]
  cases p.simulator.scenario with
  | ready => exact begin_map h p
  | asleep n =>
    cases t with
    | settle => rfl
    | tick => exact runRounds_map h n p
  | idle | finished => rfl

/-- The same answers, with a record of the posts and how they were answered. -/
def recorded (respond : Responder σ) : Responder (σ × List Exchange) := fun w sent =>
  let (world, result) := respond w.1 sent
  ((world, w.2 ++ [(sent, result)]), result)

theorem answersAlike_recorded (respond : Responder σ) :
    AnswersAlike Prod.fst (recorded respond) respond := fun _ _ => rfl

end TraceGraph.Simulator
