import TraceGraph.Proofs.Control

/-! Scenarios and clients of a simulator. Whatever is asked of it and however its posts are answered, a
scenario is only ever replaced when it has ended, and of all clients that were created only the one that is
held is open. A simulator that was stopped stays as it is until it is started: it has no scenario to run,
no client, and posts nothing. -/

namespace TraceGraph

/-- Whether a scenario has turns to come. -/
def Scenario.unfinished : Scenario → Bool
  | ready | asleep _ => true
  | idle | finished => false

namespace Simulator

variable {σ : Type} {respond : Responder σ} {s t : Simulator} {p : Progress σ}

theorem isRunning_eq_unfinished (s : Simulator) : s.isRunning = s.scenario.unfinished := by
  unfold isRunning Scenario.unfinished
  cases s.scenario <;> rfl

/-! ### What turns leave alone -/

/-- No client is opened or closed between two states of a simulator. -/
structure SameClient (s t : Simulator) : Prop where
  hasClient : t.hasClient = s.hasClient
  created : t.clientsCreated = s.clientsCreated
  closed : t.clientsClosed = s.clientsClosed

theorem SameClient.trans {u : Simulator} (h : SameClient s t) (h' : SameClient t u) : SameClient s u :=
  ⟨h'.hasClient.trans h.hasClient, h'.created.trans h.created, h'.closed.trans h.closed⟩

theorem post_simulator (respond : Responder σ) (path : String) (body : Json) (p : Progress σ) :
    (post respond path body p).1.simulator = p.simulator := by
  unfold post
  split
  · dsimp only
    split <;> rfl
  · rfl

theorem postBatch_simulator (respond : Responder σ) (p : Progress σ) :
    (postBatch respond p).1.simulator = p.simulator.nextBatch.1 :=
  post_simulator respond "/api/trace-data" p.simulator.nextBatch.2
    { p with simulator := p.simulator.nextBatch.1 }

/-- Rounds post with the client that is held, and neither open nor close one. -/
theorem sameClient_runRounds (respond : Responder σ) (n : Nat) (p : Progress σ) :
    SameClient p.simulator (runRounds respond n p).simulator := by
  induction n generalizing p with
  | zero => exact ⟨rfl, rfl, rfl⟩
  | succ n ih =>
    rw [runRounds]
    split
    · have hbatch : SameClient p.simulator (postBatch respond p).1.simulator := by
        rw [postBatch_simulator]
        exact ⟨rfl, rfl, rfl⟩
      generalize postBatch respond p = r at hbatch
      obtain ⟨q, e | ⟨⟩⟩ := r
      · exact ⟨hbatch.hasClient, hbatch.created, hbatch.closed⟩
      · dsimp only
        split
        · exact ⟨hbatch.hasClient, hbatch.created, hbatch.closed⟩
        · exact hbatch.trans (ih q)
    · exact ⟨rfl, rfl, rfl⟩

theorem sameClient_begin (respond : Responder σ) (p : Progress σ) :
    SameClient p.simulator (begin respond p).simulator := by
  have hpost := post_simulator respond "/api/meta-model" Program.capabilities p
  rw [begin]
  generalize post respond "/api/meta-model" Program.capabilities p = r at hpost
  rw [← hpost]
  obtain ⟨q, e | ⟨⟩⟩ := r
  · exact ⟨rfl, rfl, rfl⟩
  · exact sameClient_runRounds respond q.simulator.rounds.toNat q

/-- A turn is given to an unfinished scenario, or nothing happens. -/
theorem Turn.run_of_not_running (respond : Responder σ) (t : Turn) (h : p.simulator.isRunning = false) :
    t.run respond p = p := by
  rw [isRunning_eq_unfinished] at h
  rw [Turn.run_eq]
  cases hs : p.simulator.scenario with
  | idle | finished => rfl
  | ready | asleep => rw [hs] at h; cases h

theorem Turn.sameClient (respond : Responder σ) (t : Turn) (p : Progress σ) :
    SameClient p.simulator (t.run respond p).simulator := by
  rw [Turn.run_eq]
  cases p.simulator.scenario with
  | ready => exact sameClient_begin respond p
  | asleep n =>
    cases t with
    | settle => exact ⟨rfl, rfl, rfl⟩
    | tick => exact sameClient_runRounds respond n p
  | idle | finished => exact ⟨rfl, rfl, rfl⟩

/-! ### Clients -/

/-- Of the clients that were created only the one that is held is open, and an unfinished scenario has
one to post with. -/
structure Accounted (s : Simulator) : Prop where
  clients : s.clientsCreated = s.clientsClosed + s.hasClient.toNat
  client : s.isRunning → s.hasClient

theorem accounted_new (apiUrl : String) (rounds : Int) (interval : Number) (picks : List Int) :
    (new apiUrl rounds interval picks).Accounted :=
  ⟨rfl, nofun⟩

theorem Accounted.of_sameClient (h : s.Accounted) (hsame : SameClient s t)
    (hrunning : t.isRunning → s.isRunning) : t.Accounted where
  clients := by rw [hsame.created, hsame.closed, hsame.hasClient, h.clients]
  client ht := by rw [hsame.hasClient, h.client (hrunning ht)]

theorem Accounted.turn (h : p.simulator.Accounted) (t : Turn) : (t.run respond p).simulator.Accounted := by
  cases hrunning : p.simulator.isRunning with
  | true => exact h.of_sameClient (t.sameClient respond p) fun _ => hrunning
  | false => rwa [t.run_of_not_running respond hrunning]

theorem hasClient_closeClient (s : Simulator) : s.closeClient.hasClient = false := by
  obtain ⟨n, hn⟩ := s.closeClient_eq
  rw [hn]

theorem clientsCreated_closeClient (s : Simulator) : s.closeClient.clientsCreated = s.clientsCreated := by
  obtain ⟨n, hn⟩ := s.closeClient_eq
  rw [hn]

/-- Once the client that is held is closed, all clients are. -/
theorem clientsClosed_closeClient (h : s.clientsCreated = s.clientsClosed + s.hasClient.toNat) :
    s.closeClient.clientsClosed = s.clientsCreated := by
  rw [h, Simulator.closeClient]
  cases hclient : s.hasClient with
  | true => rfl
  | false =>
    rw [if_neg Bool.false_ne_true]
    rfl

theorem start_of_not_running (h : s.isRunning = false) :
    s.start = { s.closeClient.openClient.newProgram with going := true, scenario := .ready } := by
  rw [Simulator.start, if_neg (by simp [h])]

theorem Accounted.start (h : s.Accounted) : s.start.Accounted := by
  cases hrunning : s.isRunning with
  | true => rwa [start_of_running hrunning]
  | false =>
    rw [start_of_not_running hrunning]
    refine ⟨?_, fun _ => rfl⟩
    change s.closeClient.clientsCreated + 1 = s.closeClient.clientsClosed + 1
    rw [clientsClosed_closeClient h.clients, clientsCreated_closeClient]

theorem Accounted.stop (h : s.Accounted) : s.stop.Accounted where
  clients := by
    have hclosed : s.stop.clientsClosed = s.clientsCreated := clientsClosed_closeClient h.clients
    have hcreated : s.stop.clientsCreated = s.clientsCreated := clientsCreated_closeClient _
    have hclient : s.stop.hasClient = false := hasClient_closeClient _
    rw [hclosed, hcreated, hclient]
    rfl
  client hr := by
    rw [isRunning_stop] at hr
    cases hr

theorem Accounted.step (h : p.simulator.Accounted) (op : Op) : (op.run respond p).simulator.Accounted := by
  cases op with
  | start => exact h.start
  | stop => exact h.stop
  | settle => exact h.turn .settle
  | tick => exact h.turn .tick
  | halt | newProgram | nextBatch => exact h.of_sameClient ⟨rfl, rfl, rfl⟩ id
  | post path body =>
    rw [Op.run, post_simulator]
    exact h

theorem Accounted.run (h : p.simulator.Accounted) (ops : List Op) : (run respond ops p).simulator.Accounted := by
  induction ops generalizing p with
  | nil => exact h
  | cons op ops ih => exact ih (h.step op)

/-! ### Scenarios one after the other -/

/-- The scenarios that were replaced by others during some operations, as they stood then; an idle one
stands for none. Each scenario has a client of its own. -/
def replaced (respond : Responder σ) : List Op → Progress σ → List Scenario
  | [], _ => []
  | op :: ops, p =>
    let q := op.run respond p
    if q.simulator.clientsCreated = p.simulator.clientsCreated then replaced respond ops q
    else p.simulator.scenario :: replaced respond ops q

/-- A scenario gives way only when it is over. -/
theorem clientsCreated_run_of_unfinished (h : p.simulator.scenario.unfinished) (op : Op) :
    (op.run respond p).simulator.clientsCreated = p.simulator.clientsCreated := by
  rw [← isRunning_eq_unfinished] at h
  cases op with
  | start => rw [Op.run, start_of_running h]
  | stop => exact clientsCreated_closeClient _
  | settle => exact (Turn.settle.sameClient respond p).created
  | tick => exact (Turn.tick.sameClient respond p).created
  | halt | newProgram | nextBatch => rfl
  | post path body => rw [Op.run, post_simulator]

theorem unfinished_replaced (respond : Responder σ) (ops : List Op) (p : Progress σ) :
    ∀ scenario ∈ replaced respond ops p, scenario.unfinished = false := by
  induction ops generalizing p with
  | nil => exact List.forall_mem_nil _
  | cons op ops ih =>
    rw [replaced]
    split
    · exact ih _
    · next hcreated =>
      -- a client was created, so the scenario before was over
      refine List.forall_mem_cons.2 ⟨?_, ih _⟩
      exact Bool.eq_false_iff.2 fun h => hcreated (clientsCreated_run_of_unfinished h op)

/-! ### Stopped simulators -/

/-- There is nothing to run and nothing to post with. -/
structure Stopped (s : Simulator) : Prop where
  going : s.going = false
  client : s.hasClient = false
  running : s.isRunning = false

theorem stopped_new (apiUrl : String) (rounds : Int) (interval : Number) (picks : List Int) :
    (new apiUrl rounds interval picks).Stopped :=
  ⟨rfl, rfl, rfl⟩

theorem stopped_stop (s : Simulator) : s.stop.Stopped := by
  refine ⟨?_, hasClient_closeClient _, s.isRunning_stop⟩
  obtain ⟨n, hn⟩ := s.stop_eq
  rw [hn]

theorem Stopped.stop (h : s.Stopped) : s.stop = s := by
  have hpaused : ({ s with
      going := false
      scenario := if s.isRunning then .finished else s.scenario } : Simulator) = s := by
    simp only [h.running, Bool.false_eq_true, if_false]
    rw [← h.going]
  exact (congrArg closeClient hpaused).trans (if_neg (by simp [h.client]))

/-- What a stopped simulator posts, and what changes outside, is nothing. -/
theorem Stopped.step (h : p.simulator.Stopped) (respond : Responder σ) {op : Op} (hop : op ≠ .start) :
    (op.run respond p).simulator.Stopped ∧ (op.run respond p).posts = p.posts ∧
      (op.run respond p).world = p.world := by
  cases op with
  | start => exact absurd rfl hop
  | stop =>
    rw [Op.run, h.stop]
    exact ⟨h, rfl, rfl⟩
  | settle =>
    have hturn : Op.run respond p .settle = p := Turn.settle.run_of_not_running respond h.running
    rw [hturn]
    exact ⟨h, rfl, rfl⟩
  | tick =>
    have hturn : Op.run respond p .tick = p := Turn.tick.run_of_not_running respond h.running
    rw [hturn]
    exact ⟨h, rfl, rfl⟩
  | halt => exact ⟨⟨rfl, h.client, h.running⟩, rfl, rfl⟩
  | newProgram | nextBatch => exact ⟨⟨h.going, h.client, h.running⟩, rfl, rfl⟩
  | post path body =>
    rw [Op.run, Simulator.post, if_neg (by simp [h.client])]
    exact ⟨h, rfl, rfl⟩

theorem Stopped.run (h : p.simulator.Stopped) (respond : Responder σ) {ops : List Op} (hops : .start ∉ ops) :
    (run respond ops p).simulator.Stopped ∧ (run respond ops p).posts = p.posts ∧
      (run respond ops p).world = p.world := by
  induction ops generalizing p with
  | nil => exact ⟨h, rfl, rfl⟩
  | cons op ops ih =>
    rw [List.mem_cons, not_or] at hops
    obtain ⟨hstopped, hposts, hworld⟩ := h.step respond (Ne.symm hops.1)
    obtain ⟨hrun, hposts', hworld'⟩ := ih hstopped hops.2
    exact ⟨hrun, hposts'.trans hposts, hworld'.trans hworld⟩

/-- In any run of a simulator, with any answers to its posts, at most one scenario of all that were begun
is unfinished and at most one client of all that were created is open, the one that is held; an unfinished
scenario has it. A start changes nothing while a scenario is unfinished; otherwise it closes the client
that is left, so that none is open, and only then opens another for a new program. From a stop to the next
start nothing is running, no client is open, nothing is posted, and another stop changes nothing; nor does
a stop before the first start. -/
theorem scenarios_and_clients (respond : Responder σ) (apiUrl : String) (rounds : Int) (interval : Number)
    (picks : List Int) (world : σ) (ops : List Op) :
    let origin : Progress σ := ⟨new apiUrl rounds interval picks, world, [], []⟩
    let p := run respond ops origin
    let s := p.simulator
    (replaced respond ops origin ++ [s.scenario]).countP Scenario.unfinished ≤ 1 ∧
    s.clientsCreated = s.clientsClosed + (if s.hasClient then 1 else 0) ∧
    (s.scenario.unfinished → s.hasClient ∧ s.start = s) ∧
    (s.scenario.unfinished = false →
      s.start = { s.closeClient.openClient.newProgram with going := true, scenario := .ready } ∧
      s.closeClient.hasClient = false ∧ s.closeClient.clientsClosed = s.closeClient.clientsCreated) ∧
    (∀ after, .start ∉ after → let q := run respond (.stop :: after) p
      q.simulator.scenario.unfinished = false ∧ q.simulator.hasClient = false ∧
        q.simulator.clientsCreated = q.simulator.clientsClosed ∧ q.posts = p.posts ∧ q.world = p.world ∧
        q.simulator.stop = q.simulator) ∧
    (.start ∉ ops → s.stop = s) := by
  intro origin p s
  have haccounted : s.Accounted := (accounted_new apiUrl rounds interval picks).run (p := origin) ops
  have hrunning : s.isRunning = s.scenario.unfinished := s.isRunning_eq_unfinished
  refine ⟨?_, ?_, ?_, ?_, ?_, ?_⟩
  · have hreplaced : (replaced respond ops origin).countP Scenario.unfinished = 0 :=
      List.countP_eq_zero.2 fun x hx => by simp [unfinished_replaced respond ops origin x hx]
    rw [List.countP_append, hreplaced, Nat.zero_add]
    exact List.countP_le_length
  · have hclients := haccounted.clients
    cases hclient : s.hasClient <;> simpa [hclient] using hclients
  · rw [← hrunning]
    exact fun h => ⟨haccounted.client h, start_of_running h⟩
  · rw [← hrunning]
    refine fun h => ⟨start_of_not_running h, hasClient_closeClient s, ?_⟩
    rw [clientsClosed_closeClient haccounted.clients, clientsCreated_closeClient]
  · intro after hafter q
    have hstopped : (Op.run respond p .stop).simulator.Stopped := stopped_stop s
    have hafter : q.simulator.Stopped ∧ q.posts = p.posts ∧ q.world = p.world := hstopped.run respond hafter
    obtain ⟨hq, hposts, hworld⟩ := hafter
    have hclients : q.simulator.clientsCreated = q.simulator.clientsClosed + q.simulator.hasClient.toNat :=
      (haccounted.run (p := p) (.stop :: after)).clients
    refine ⟨?_, hq.client, ?_, hposts, hworld, hq.stop⟩
    · rw [← isRunning_eq_unfinished]
      exact hq.running
    · rw [hclients, hq.client]
      rfl
  · intro hops
    exact ((stopped_new apiUrl rounds interval picks).run (p := origin) respond hops).1.stop

end Simulator

end TraceGraph
