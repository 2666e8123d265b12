import TraceGraph.Proofs.Errands

/-! The course of a scenario. It runs its errands in order and none of them twice. A post that is refused or
not answered does not change the course; one that breaks ends it and is the last. However long the pauses
between the rounds are, every scenario comes to its end. -/

namespace TraceGraph.Simulator

variable {σ : Type} {respond : Responder σ} {p q : Progress σ} {left : Nat}

/-- The last record of a scenario that has run all its errands. -/
def completion (rounds : Nat) : Log.Record :=
  info s!"SIM: scenario complete: {rounds} workers, {rounds} channels"

/-- The last record of a scenario that a post has broken. -/
def failure (e : PostError) : Log.Record := error s!"SIM scenario error: {e.message}"

/-- How the scenario that is started at `p` stands at `q`. -/
inductive Course (respond : Responder σ) (p q : Progress σ) : Prop
  /-- It goes on, with some of its errands run. -/
  | underway {done : List Visit} {records : List Log.Record} {rest : List Errand}
    (running : q.simulator.isRunning = true) (ran : Ran respond p q done records)
    (noted : Noted done records) (split : p.simulator.errands = done.map Prod.fst ++ rest)
  /-- It is over with all its errands run. -/
  | completed {done : List Visit} {records : List Log.Record} (ended : q.simulator.scenario = .finished)
    (ran : Ran respond p q done (records ++ [completion p.simulator.rounds.toNat]))
    (noted : Noted done records) (all : p.simulator.errands = done.map Prod.fst)
  /-- It is over with a post that broke. -/
  | broken {done : List Visit} {records : List Log.Record} {e : Errand} {result : PostResult}
    {error : PostError} {rest : List Errand} (ended : q.simulator.scenario = .finished)
    (ran : Ran respond p q (done ++ [(e, result)]) (records ++ [failure error]))
    (noted : Noted done records) (breaks : Breaks result error)
    (split : p.simulator.errands = done.map Prod.fst ++ e :: rest)

/-! ### Rounds -/

/-- A scenario between two rounds, with some of them left. -/
structure AtWork (respond : Responder σ) (p q : Progress σ) (left : Nat) : Prop where
  client : q.simulator.hasClient = true
  going : q.simulator.going = true
  apiUrl : q.simulator.apiUrl = p.simulator.apiUrl
  interval : q.simulator.interval = p.simulator.interval
  workers : q.simulator.program.workers.length + left = p.simulator.rounds.toNat
  channels : q.simulator.program.channels.length + left = p.simulator.rounds.toNat
  course : ∃ done records, Ran respond p q done records ∧ Noted done records ∧
    p.simulator.errands = done.map Prod.fst ++ batches left q.simulator.program

/-- Where a scenario stands after a turn, and how many ticks it takes it at most to be over. -/
inductive Stage (respond : Responder σ) (p q : Progress σ) : Nat → Prop
  | asleep {left : Nat} (scenario : q.simulator.scenario = .asleep left)
    (pauses : p.simulator.interval.gtInt 0 = true) (work : AtWork respond p q left) :
    Stage respond p q (left + 1)
  | ended (scenario : q.simulator.scenario = .finished) (course : Course respond p q) : Stage respond p q 0

theorem AtWork.sleep (h : AtWork respond p q left) (n : Nat) :
    AtWork respond p { q with simulator := { q.simulator with scenario := .asleep n } } left := by
  obtain ⟨done, records, hran, hnoted, hsplit⟩ := h.course
  exact ⟨h.client, h.going, h.apiUrl, h.interval, h.workers, h.channels,
    ⟨done, records, hran.of_same rfl rfl rfl, hnoted, hsplit⟩⟩

/-- Without rounds left a scenario is complete, with a worker and a channel for each round. -/
theorem AtWork.complete (h : AtWork respond p q 0) : Course respond p (complete q) := by
  obtain ⟨done, records, hran, hnoted, hsplit⟩ := h.course
  have hcomplete : Simulator.complete q = finish q (completion p.simulator.rounds.toNat) := by
    rw [completion, Simulator.complete, ← Nat.add_zero q.simulator.program.workers.length, h.workers,
      ← Nat.add_zero q.simulator.program.channels.length, h.channels]
  rw [hcomplete]
  refine .completed rfl (hran.finish _) hnoted ?_
  rw [hsplit]
  exact List.append_nil _

/-- One round: the next batch is posted, or its post breaks and the scenario is over. -/
theorem AtWork.postBatch (h : AtWork respond p q (left + 1)) :
    (∃ r, postBatch respond q = (r, .ok ()) ∧ AtWork respond p r left) ∨
      ∃ r error, postBatch respond q = (r, .error error) ∧ Course respond p (fail r error) := by
  obtain ⟨done, records, hran, hnoted, hsplit⟩ := h.course
  have hbatches : batches (left + 1) q.simulator.program =
      ⟨"/api/trace-data", q.simulator.nextBatch.2⟩ :: batches left q.simulator.nextBatch.1.program := rfl
  rw [hbatches] at hsplit
  have hsame : Ran respond p { q with simulator := q.simulator.nextBatch.1 } done records :=
    hran.of_same rfl rfl rfl
  obtain ⟨result, r, hsimulator, hpost⟩ := hsame.post h.client h.apiUrl
    ⟨"/api/trace-data", q.simulator.nextBatch.2⟩
  rcases hpost with ⟨record, hlogged, hpost, hran⟩ | ⟨error, hbreaks, hpost, hran⟩
  · refine .inl ⟨r, hpost, ?_⟩
    have hworkers := q.simulator.program.length_workers_nextBatch
    have hchannels := q.simulator.program.length_channels_nextBatch
    have hallWorkers := h.workers
    have hallChannels := h.channels
    constructor <;> rw [hsimulator]
    · exact h.client
    · exact h.going
    · exact h.apiUrl
    · exact h.interval
    · rw [Simulator.nextBatch]
      dsimp only
      omega
    · rw [Simulator.nextBatch]
      dsimp only
      omega
    · refine ⟨_, _, hran, hnoted.snoc hlogged, ?_⟩
      rw [hsplit, List.map_append, List.append_assoc]
      rfl
  · exact .inr ⟨r, error, hpost, .broken rfl (hran.finish _) hnoted hbreaks hsplit⟩

/-- The rounds that are left are run until the scenario sleeps, with fewer left, or is over. -/
theorem AtWork.runRounds (h : AtWork respond p q left) :
    ∃ ticks ≤ left, Stage respond p (runRounds respond left q) ticks := by
  induction left generalizing q with
  | zero => exact ⟨0, Nat.le_refl 0, .ended rfl h.complete⟩
  | succ left ih =>
    rw [Simulator.runRounds, if_pos h.going]
    rcases h.postBatch with ⟨r, hpost, hr⟩ | ⟨r, error, hpost, hcourse⟩
    · rw [hpost]
      dsimp only
      split
      · next hpauses =>
        rw [hr.interval] at hpauses
        exact ⟨left + 1, Nat.le_refl _, .asleep rfl hpauses (hr.sleep left)⟩
      · obtain ⟨ticks, hticks, hstage⟩ := ih hr
        exact ⟨ticks, Nat.le_succ_of_le hticks, hstage⟩
    · rw [hpost]
      exact ⟨0, Nat.zero_le _, .ended rfl hcourse⟩

/-! ### Turns -/

def Turn.op : Turn → Op
  | settle => .settle
  | tick => .tick

def Turn.isTick : Turn → Bool
  | settle => false
  | tick => true

theorem Turn.run_op (respond : Responder σ) (t : Turn) (p : Progress σ) :
    Op.run respond p t.op = t.run respond p := by
  cases t <;> rfl

/-- The progress after a start. -/
def started (p : Progress σ) : Progress σ := { p with simulator := p.simulator.start }

section
variable (h : p.simulator.isRunning = false)
include h

theorem scenario_started : (started p).simulator.scenario = .ready := by
  obtain ⟨n, hstart⟩ := start_eq h
  rw [started, hstart]

/-- In its first turn a scenario posts its capabilities and then runs its rounds. -/
theorem stage_first (respond : Responder σ) (t : Turn) :
    ∃ ticks ≤ p.simulator.rounds.toNat, Stage respond p (t.run respond (started p)) ticks := by
  obtain ⟨n, hstart⟩ := start_eq h
  have hran : Ran respond p (started p) [] [] := (Ran.refl respond p).of_same rfl rfl rfl
  obtain ⟨result, r, hsimulator, hpost⟩ := hran.post (by rw [started, hstart]) (by rw [started, hstart])
    ⟨"/api/meta-model", Program.capabilities⟩
  rw [started, hstart] at hsimulator
  rw [Turn.run_eq, scenario_started h]
  dsimp only at hpost ⊢
  rw [begin]
  rcases hpost with ⟨record, hlogged, hpost, hran⟩ | ⟨error, hbreaks, hpost, hran⟩
  · have hwork : AtWork respond p r p.simulator.rounds.toNat := by
      constructor <;> rw [hsimulator]
      · exact Nat.zero_add _
      · exact Nat.zero_add _
      · exact ⟨_, _, hran, .cons hlogged .nil, rfl⟩
    have hrounds : r.simulator.rounds = p.simulator.rounds := by rw [hsimulator]
    rw [hpost]
    dsimp only
    rw [hrounds]
    exact hwork.runRounds
  · rw [hpost]
    exact ⟨0, Nat.zero_le _, .ended rfl (.broken rfl (hran.finish _) .nil hbreaks rfl)⟩

end

namespace Stage

variable {ticks : Nat}

theorem course (h : Stage respond p q ticks) : Course respond p q := by
  cases h with
  | asleep scenario _ work =>
    obtain ⟨done, records, hran, hnoted, hsplit⟩ := work.course
    exact .underway (isRunning_of_asleep scenario) hran hnoted hsplit
  | ended _ course => exact course

theorem finished (h : Stage respond p q ticks) (hover : ticks = 0 ∨ p.simulator.interval.gtInt 0 = false) :
    q.simulator.scenario = .finished := by
  cases h with
  | asleep _ pauses =>
    rcases hover with hticks | hnone
    · cases hticks
    · rw [pauses] at hnone
      cases hnone
  | ended scenario => exact scenario

/-- A tick brings a scenario nearer to its end, and nothing leads away from it. -/
theorem turn (h : Stage respond p q ticks) (t : Turn) :
    ∃ fewer ≤ ticks - if t.isTick then 1 else 0, Stage respond p (t.run respond q) fewer := by
  rw [Turn.run_eq]
  cases h with
  | @asleep left scenario pauses work =>
    rw [scenario]
    cases t with
    | settle => exact ⟨left + 1, Nat.le_refl _, .asleep scenario pauses work⟩
    | tick => exact work.runRounds
  | ended scenario course =>
    rw [scenario]
    exact ⟨0, Nat.zero_le _, .ended scenario course⟩

theorem turns (h : Stage respond p q ticks) (turns : List Turn) :
    ∃ fewer ≤ ticks - turns.countP Turn.isTick,
      Stage respond p (run respond (turns.map Turn.op) q) fewer := by
  induction turns generalizing q ticks with
  | nil => exact ⟨ticks, Nat.le_refl _, h⟩
  | cons t turns ih =>
    obtain ⟨fewer, hfewer, hturn⟩ := h.turn t
    obtain ⟨least, hleast, hturns⟩ := ih hturn
    rw [List.map_cons, run_cons, t.run_op]
    refine ⟨least, ?_, hturns⟩
    rw [List.countP_cons]
    omega

end Stage

/-- A scenario that is started, and then neither stopped nor halted, runs its errands: one post to install
the capabilities and one for each round, the batches of a new program in order, the first of which announces
its main activity. It ends after them all with one record of as many workers and channels as rounds, unless
a post breaks; that one is then the last, and one record of the failure ends the run. All other posts are
logged, whether they were taken or not. The scenario is over once there were more ticks than rounds, and
without pauses after its first turn. -/
theorem scenario_runs_errands (respond : Responder σ) (h : p.simulator.isRunning = false)
    (turns : List Turn) :
    let q := run respond (.start :: turns.map Turn.op) p
    Course respond p q ∧
      (p.simulator.rounds.toNat < turns.countP Turn.isTick ∨
        turns ≠ [] ∧ p.simulator.interval.gtInt 0 = false → q.simulator.scenario = .finished) ∧
      (p.simulator.errands.length : Int) = 1 + max 0 p.simulator.rounds ∧
      (0 < p.simulator.rounds → ∃ main bs,
        Program.Writes (p.simulator.program.restart.told p.simulator.rounds.toNat) bs ∧
          Batch.Tells main bs) := by
  intro q
  have hmain (hrounds : 0 < p.simulator.rounds) :=
    p.simulator.program.told_restart (n := p.simulator.rounds.toNat) (by omega)
  cases turns with
  | nil =>
    have hran : Ran respond p (started p) [] [] := (Ran.refl respond p).of_same rfl rfl rfl
    refine ⟨.underway (isRunning_of_ready (scenario_started h)) hran .nil rfl, ?_,
      p.simulator.length_errands, hmain⟩
    rintro (hticks | ⟨hturns, -⟩)
    · cases hticks
    · exact absurd rfl hturns
  | cons t turns =>
    obtain ⟨ticks, hticks, hfirst⟩ := stage_first h respond t
    obtain ⟨fewer, hfewer, hstage⟩ := hfirst.turns turns
    have hq : q = run respond (turns.map Turn.op) (t.run respond (started p)) := by
      rw [← t.run_op]
      rfl
    rw [← hq] at hstage
    refine ⟨hstage.course, fun hover => hstage.finished ?_, p.simulator.length_errands, hmain⟩
    refine hover.imp (fun hmore => ?_) And.right
    rw [List.countP_cons] at hmore
    split at hmore <;> omega

/-- Answers that are given one after the other. -/
def scripted : Responder (List PostResult) := fun answers _ =>
  (answers.tail, answers.headD (.answered 200 (.object [])))

/-- A refusal and no answer at all change nothing, a post that breaks ends the run before its last round. -/
theorem scenario_runs_errands_scripted :
    let p : Progress (List PostResult) :=
      ⟨.new "http://localhost:8000" 3 (.whole 1) [],
        [.answered 500 .null, .unreached "down", .broken "gone"], [], []⟩
    let q := run scripted [.start, .settle, .tick, .tick, .tick, .tick] p
    Course scripted p q ∧ q.simulator.scenario = .finished ∧ q.posts.length = 3 := by
  intro p q
  obtain ⟨hcourse, hover, -⟩ := scenario_runs_errands scripted (p := p) rfl
    [.settle, .tick, .tick, .tick, .tick]
  exact ⟨hcourse, hover (.inl (by decide)), rfl⟩

end TraceGraph.Simulator
