import TraceGraph.Proofs.Delivery
import TraceGraph.Proofs.Posts

/-! Control of a simulator whose posts come in at the same interface. Requests to start it, to stop it and
to reset the session come between the turns of its scenario; what is posted in the turns is told with the
answers and with the number of the run. -/

namespace TraceGraph

open Simulator Service

/-- The control requests. -/
inductive Control
  | reset
  | start
  | stop

namespace Control

def path : Control → String
  | reset => "/api/control/reset"
  | start => "/api/control/sim/start"
  | stop => "/api/control/sim/stop"

def route : Control → Route
  | reset => .reset
  | start => .startSim
  | stop => .stopSim

theorem mem_postPaths (c : Control) : (c.path, c.route) ∈ postPaths := by
  cases c <;> decide

/-- What a control request makes of a service with a simulator. -/
def apply (s : Service) : Control → Service
  | reset => s.resetSession
  | start => { s with simulator := s.simulator.map Simulator.start }
  | stop => { s with simulator := s.simulator.map Simulator.stop }

end Control

/-- A control request, with any body and headers, or a turn of the scenario. -/
inductive Event
  | control (c : Control) (body : Option Json) (headers : List (String × String))
  | turn (t : Turn)

/-- A post of the simulator and its answer, with the number of its run. -/
structure Delivery where
  run : Nat
  exchange : Exchange

namespace Service

/-- How many runs the simulator has begun: each opens a client of its own. -/
def runs (s : Service) : Nat := (s.simulator.map Simulator.clientsCreated).getD 0

/-- The number of the run that the next post will be of, if there is one. -/
def nextRun (s : Service) : Nat := if s.simRunning then s.runs else s.runs + 1

/-- The progress that a turn starts from, with a record of the posts. -/
def origin (s : Service) (sim : Simulator) : Progress (Session × List Exchange) :=
  ⟨sim, (s.session, []), [], []⟩

/-- The progress of a turn. -/
def progress (s : Service) (sim : Simulator) (t : Turn) : Progress (Session × List Exchange) :=
  t.run (recorded respond) (s.origin sim)

/-- What the simulator posts in a turn, and how that is answered. -/
def deliveries (s : Service) (t : Turn) : List Delivery :=
  match s.simulator with
  | none => []
  | some sim => (s.progress sim t).world.2.map (⟨s.runs, ·⟩)

end Service

namespace Event

def run (s : Service) : Event → Service
  | control c body headers => (s.handle (.post c.path body headers)).1
  | turn .settle => s.settle
  | turn .tick => s.tick

def deliveries (s : Service) : Event → List Delivery
  | control .. => []
  | turn t => s.deliveries t

/-- The service after some events. -/
def runAll (events : List Event) (s : Service) : Service := events.foldl run s

/-- What the simulator posts during some events. -/
def transcript : List Event → Service → List Delivery
  | [], _ => []
  | e :: es, s => e.deliveries s ++ transcript es (e.run s)

end Event

namespace Simulator

variable {sim : Simulator}

theorem isRunning_of_ready (h : sim.scenario = .ready) : sim.isRunning := by rw [isRunning, h]

theorem isRunning_of_asleep {n : Nat} (h : sim.scenario = .asleep n) : sim.isRunning := by rw [isRunning, h]

theorem closeClient_eq (sim : Simulator) :
    ∃ n, sim.closeClient = { sim with hasClient := false, clientsClosed := n } := by
  unfold closeClient
  split
  · exact ⟨_, rfl⟩
  · next h =>
    have hclosed : sim.hasClient = false := by simpa using h
    exact ⟨sim.clientsClosed, by rw [← hclosed]⟩

theorem start_of_running (h : sim.isRunning) : sim.start = sim := if_pos h

/-- A start begins a program of its own with a client of its own. -/
theorem start_eq (h : sim.isRunning = false) :
    ∃ n, sim.start =
      { sim with
        program := sim.program.restart
        going := true
        scenario := .ready
        hasClient := true
        clientsCreated := sim.clientsCreated + 1
        clientsClosed := n } := by
  obtain ⟨n, hn⟩ := sim.closeClient_eq
  have hnot : ¬ sim.isRunning := by simp [h]
  rw [start, if_neg hnot, hn]
  exact ⟨n, rfl⟩

theorem stop_eq (sim : Simulator) :
    ∃ n, sim.stop =
      { sim with
        going := false
        scenario := if sim.isRunning then .finished else sim.scenario
        hasClient := false
        clientsClosed := n } :=
  closeClient_eq _

theorem isRunning_stop (sim : Simulator) : sim.stop.isRunning = false := by
  obtain ⟨n, hn⟩ := sim.stop_eq
  rw [hn]
  by_cases h : sim.isRunning
  · rw [if_pos h]
    rfl
  · rw [if_neg h]
    exact Bool.eq_false_iff.2 h

theorem isRunning_start (sim : Simulator) : sim.start.isRunning := by
  by_cases h : sim.isRunning
  · rwa [start_of_running h]
  · obtain ⟨n, hn⟩ := start_eq (Bool.eq_false_iff.2 h)
    rw [hn]
    rfl

end Simulator

namespace Service

variable {s : Service} {sim : Simulator}

/-! ### Control requests -/

/-- Every control request is answered 200 and tells whether the simulator runs then. -/
theorem handle_control (hs : s.simulator = some sim) (c : Control) (body : Option Json)
    (headers : List (String × String)) :
    let r := s.handle (.post c.path body headers)
    r.1 = c.apply s ∧ r.2.status = 200 ∧
      r.2.content = .json (.object [("status", .text "ok"), ("sim_running", .bool r.1.simRunning)]) := by
  obtain ⟨added, hhandle⟩ := s.handle_post c.mem_postPaths body headers
  have hroute : s.serveRoute c.route body = controlled (c.apply s) := by
    cases c with
    | reset => rfl
    | start | stop => simp only [Control.route, serveRoute, withSimulator, hs, Control.apply, Option.map_some]
  intro r
  have hr : r = _ := hhandle
  rw [hr, hroute]
  exact ⟨rfl, rfl, rfl⟩

/-- The simulator runs after a start and after a reset while it ran. -/
theorem simRunning_apply (hs : s.simulator = some sim) (c : Control) :
    (c.apply s).simRunning ↔ c = .start ∨ c = .reset ∧ s.simRunning := by
  have hafter (sim' : Simulator) : ({ s with simulator := some sim' } : Service).simRunning = sim'.isRunning := rfl
  cases c with
  | reset =>
    by_cases hrunning : s.simRunning
    · have happly : (Control.reset.apply s).simRunning = sim.stop.start.isRunning := by
        rw [Control.apply, resetSession, if_pos hrunning, hs]
        rfl
      simp [happly, isRunning_start, hrunning]
    · have happly : (Control.reset.apply s).simRunning = s.simRunning := by
        rw [Control.apply, resetSession, if_neg hrunning]
        rfl
      simp [happly]
  | start =>
    rw [Control.apply, hs, Option.map_some, hafter]
    simp [isRunning_start]
  | stop =>
    rw [Control.apply, hs, Option.map_some, hafter]
    simp [isRunning_stop]

theorem session_resetSession (s : Service) : s.resetSession.session = s.session.reset.session := by
  rw [resetSession]
  split <;> rfl

/-! ### Turns -/

theorem progress_eq (s : Service) (sim : Simulator) (t : Turn) :
    s.progress sim t = match sim.scenario, t with
      | .ready, _ => begin (recorded respond) (s.origin sim)
      | .asleep n, .tick => runRounds (recorded respond) n (s.origin sim)
      | _, _ => s.origin sim :=
  Turn.run_eq (recorded respond) t (s.origin sim)

theorem run_turn (hs : s.simulator = some sim) (t : Turn) :
    (Event.turn t).run s = { s with
      session := (s.progress sim t).world.1
      simulator := some (s.progress sim t).simulator
      posts := s.posts + (s.progress sim t).posts.length } := by
  have hadvance : (Event.turn t).run s = s.advance (t.run respond) := by cases t <;> rfl
  have hprogress : t.run respond ⟨sim, s.session, [], []⟩ = (s.progress sim t).map Prod.fst :=
    Turn.run_map (answersAlike_recorded respond) t (s.origin sim)
  rw [hadvance, advance, hs]
  simp only [hprogress, Progress.map]

theorem deliveries_eq (hs : s.simulator = some sim) (t : Turn) :
    s.deliveries t = (s.progress sim t).world.2.map (⟨sim.clientsCreated, ·⟩) := by
  simp only [deliveries, runs, hs, Option.map_some, Option.getD_some]

end Service

/-! ### What is posted in between -/

/-- The deliveries tell these batches, and each of them was answered 200. -/
structure Reports (apiUrl : String) (ds : List Delivery) (bs : List Batch) : Prop where
  posts : ∀ d ∈ ds, d.exchange.1 = introduction apiUrl ∧ d.exchange.Succeeded ∨
    ∃ b ∈ bs, d.exchange.Carries apiUrl b
  told : ∀ b ∈ bs, ∃ d ∈ ds, d.exchange.Carries apiUrl b

theorem reports_nil (apiUrl : String) : Reports apiUrl [] [] :=
  ⟨List.forall_mem_nil _, List.forall_mem_nil _⟩

theorem Reports.append {apiUrl : String} {ds es : List Delivery} {bs cs : List Batch}
    (h : Reports apiUrl ds bs) (h' : Reports apiUrl es cs) : Reports apiUrl (ds ++ es) (bs ++ cs) := by
  constructor
  · intro d hd
    rcases List.mem_append.1 hd with hd | hd
    · exact (h.posts d hd).imp_right (Exists.imp fun _ => And.imp_left (List.mem_append_left _))
    · exact (h'.posts d hd).imp_right (Exists.imp fun _ => And.imp_left (List.mem_append_right _))
  · intro b hb
    rcases List.mem_append.1 hb with hb | hb
    · obtain ⟨d, hd, hc⟩ := h.told b hb
      exact ⟨d, List.mem_append_left _ hd, hc⟩
    · obtain ⟨d, hd, hc⟩ := h'.told b hb
      exact ⟨d, List.mem_append_right _ hd, hc⟩

theorem Reports.eq_nil {apiUrl : String} {bs : List Batch} (h : Reports apiUrl [] bs) : bs = [] :=
  List.eq_nil_iff_forall_not_mem.2 fun b hb => by
    obtain ⟨d, hd, -⟩ := h.told b hb
    cases hd

/-- What a recorded post carries is among the batches told; the introduction carries none. -/
theorem Reports.mem_of_carries {apiUrl : String} {ds : List Delivery} {bs : List Batch}
    (h : Reports apiUrl ds bs) {d : Delivery} (hd : d ∈ ds) {b : Batch} (hb : d.exchange.Carries apiUrl b) :
    b ∈ bs := by
  rcases h.posts d hd with ⟨hintroduction, -⟩ | ⟨b', hb', hcarries⟩
  · have hnone : (introduction apiUrl).batch? = none := by rfl
    have hsome := hb.batch
    rw [hintroduction, hnone] at hsome
    cases hsome
  · have hsame : some b = some b' := hb.batch.symm.trans hcarries.batch
    obtain rfl := Option.some.inj hsame
    exact hb'

theorem reports_of_carries {apiUrl : String} {xs : List Exchange} {bs : List Batch}
    (h : List.Forall₂ (Exchange.Carries apiUrl) xs bs) (n : Nat) : Reports apiUrl (xs.map (⟨n, ·⟩)) bs := by
  induction h with
  | nil => exact reports_nil apiUrl
  | @cons x b xs bs hx _ ih =>
    have hfirst : Reports apiUrl [⟨n, x⟩] [b] :=
      ⟨List.forall_mem_singleton.2 (.inr ⟨b, List.mem_cons_self, hx⟩),
        List.forall_mem_singleton.2 ⟨⟨n, x⟩, List.mem_cons_self, hx⟩⟩
    exact hfirst.append ih

/-- The service goes on from one state to another. In between the simulator posts some batches, which add to
what its programs have told, and the session keeps no others. -/
structure Proceeds (apiUrl : String) (s s' : Service) (ds : List Delivery)
    (programs programs' : List (List Batch)) (kept kept' : List Batch) : Prop where
  batches : ∃ bs, programs'.flatten = programs.flatten ++ bs ∧ kept' ⊆ kept ++ bs ∧ Reports apiUrl ds bs
  nextRun : s.nextRun ≤ s'.nextRun
  runs : ∀ d ∈ ds, s.nextRun ≤ d.run

namespace Proceeds

variable {apiUrl : String} {s s' s'' : Service} {ds es : List Delivery}
  {programs programs' programs'' : List (List Batch)} {kept kept' kept'' : List Batch}

theorem of_control (hprograms : programs'.flatten = programs.flatten) (hkept : kept' ⊆ kept)
    (hnext : s.nextRun ≤ s'.nextRun) : Proceeds apiUrl s s' [] programs programs' kept kept' := by
  refine ⟨⟨[], ?_, ?_, reports_nil apiUrl⟩, hnext, List.forall_mem_nil _⟩
  · rw [hprograms, List.append_nil]
  · rwa [List.append_nil]

theorem trans (h : Proceeds apiUrl s s' ds programs programs' kept kept')
    (h' : Proceeds apiUrl s' s'' es programs' programs'' kept' kept'') :
    Proceeds apiUrl s s'' (ds ++ es) programs programs'' kept kept'' := by
  obtain ⟨bs, hprograms, hkept, hreports⟩ := h.batches
  obtain ⟨cs, hprograms', hkept', hreports'⟩ := h'.batches
  refine ⟨⟨bs ++ cs, ?_, ?_, hreports.append hreports'⟩, h.nextRun.trans h'.nextRun, ?_⟩
  · rw [hprograms', hprograms, List.append_assoc]
  · have hall : kept' ++ cs ⊆ kept ++ bs ++ cs :=
      List.append_subset.2 ⟨List.subset_append_of_subset_left _ hkept, List.subset_append_right _ _⟩
    rw [← List.append_assoc]
    exact List.Subset.trans hkept' hall
  · exact List.forall_mem_append.2 ⟨h.runs, fun d hd => h.nextRun.trans (h'.runs d hd)⟩

end Proceeds

end TraceGraph
