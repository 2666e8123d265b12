import TraceGraph.Json.Display
import TraceGraph.Log.Record
import TraceGraph.Number
import TraceGraph.Simulator.Program

/-! A simulator of a traced program. A scenario posts the program's capabilities and then one batch per
round, with a pause after each. The simulator runs at most one scenario and
holds at most one client for its posts. What is posted is answered by a world outside, which may
change in doing so. -/

namespace TraceGraph

/-- How a post was answered: with a status and a body, not at all, or by a failure of its own. -/
inductive PostResult
  | answered (status : Int) (body : Json)
  | unreached (message : String)
  | broken (message : String)

structure Post where
  url : String
  body : Json

/-- What answers posts: each one changes the world and has a result. -/
abbrev Responder (σ : Type) := σ → Post → σ × PostResult

/-- Where the scenario stands. A scenario that was started runs nothing until it is given the turn. -/
inductive Scenario
  | idle
  | ready
  | asleep (roundsLeft : Nat)
  | finished
  deriving DecidableEq

structure Simulator where
  apiUrl : String
  rounds : Int
  interval : Number
  program : Program
  /-- Cleared to end the scenario at its next round. -/
  going : Bool
  scenario : Scenario
  hasClient : Bool
  clientsCreated : Nat
  clientsClosed : Nat

namespace Simulator

/-- Why a post could not be completed. -/
inductive PostError
  | broken (message : String)
  /-- The body of a good answer is no object. -/
  | notAnObject (body : Json)

def PostError.message : PostError → String
  | broken m => m
  | notAnObject v => s!"'{v.typeName}' object has no attribute 'get'"

/-! ### The program -/

def new (apiUrl : String) (rounds : Int) (interval : Number) (picks : List Int) : Simulator :=
  { apiUrl, rounds, interval, program := .new picks, going := false, scenario := .idle,
    hasClient := false, clientsCreated := 0, clientsClosed := 0 }

def newProgram (s : Simulator) : Simulator := { s with program := s.program.restart }

def nextBatch (s : Simulator) : Simulator × Json :=
  let (program, batch) := s.program.nextBatch
  ({ s with program }, batch)

/-! ### Posts -/

/-- The simulator and the world after some time, with what was posted and logged meanwhile. -/
structure Progress (σ : Type) where
  simulator : Simulator
  world : σ
  posts : List Post
  log : List Log.Record

variable {σ : Type}

def info (message : String) : Log.Record := ⟨Log.Level.info, "sim.sim", message, none⟩

def error (message : String) : Log.Record := ⟨Log.Level.error, "sim.sim", message, none⟩

/-- How long a post waits for its answer, in seconds. -/
def postTimeout : Int := 10

/-- What is logged about the result of a post to a path, or why the post broke off. -/
def assess (path : String) : PostResult → Except PostError Log.Record
  | .unreached m => .ok (error s!"SIM: Failed to post to {path}: {m}")
  | .broken m => .error (.broken m)
  | .answered status body =>
    if status = 200 then
      match body with
      | .object _ =>
        let answer := ((body.member? "status").getD .null).display
        .ok (info s!"SIM: {path} -> {answer}")
      | v => .error (.notAnObject v)
    else .ok (error s!"SIM: Error posting to {path}: {status}")

/-- Post to a path below the interface's URL. Without a client nothing happens. -/
def post (respond : Responder σ) (path : String) (body : Json) (p : Progress σ) :
    Progress σ × Except PostError Unit :=
  if p.simulator.hasClient then
    let sent : Post := ⟨p.simulator.apiUrl ++ path, body⟩
    let (world, result) := respond p.world sent
    let p := { p with world, posts := p.posts ++ [sent] }
    match assess path result with
    | .ok r => ({ p with log := p.log ++ [r] }, .ok ())
    | .error e => (p, .error e)
  else (p, .ok ())

/-! ### The scenario -/

def isRunning (s : Simulator) : Bool :=
  match s.scenario with
  | .ready => true
  | .asleep _ => true
  | _ => false

def finish (p : Progress σ) (r : Log.Record) : Progress σ :=
  { p with simulator := { p.simulator with scenario := .finished }, log := p.log ++ [r] }

def complete (p : Progress σ) : Progress σ :=
  let workers := p.simulator.program.workers.length
  let channels := p.simulator.program.channels.length
  finish p (info s!"SIM: scenario complete: {workers} workers, {channels} channels")

def fail (p : Progress σ) (e : PostError) : Progress σ :=
  finish p (error s!"SIM scenario error: {e.message}")

/-- Post the next batch. -/
def postBatch (respond : Responder σ) (p : Progress σ) : Progress σ × Except PostError Unit :=
  let (s, batch) := p.simulator.nextBatch
  post respond "/api/trace-data" batch { p with simulator := s }

/-- Run rounds until the scenario sleeps or ends. With a positive interval it sleeps after each round. A tick is
a sleep that ends, and a sleep of infinite length never does. With any other interval the scenario suspends
once after a round, without a sleep, and the run goes on through these suspensions. -/
def runRounds (respond : Responder σ) : Nat → Progress σ → Progress σ
  | 0, p => complete p
  | n + 1, p =>
    if p.simulator.going then
      match postBatch respond p with
      | (p, .error e) => fail p e
      | (p, .ok ()) =>
        if p.simulator.interval.gtInt 0 then
          { p with simulator := { p.simulator with scenario := .asleep n } }
        else runRounds respond n p
    else complete p

/-- Run the scenario from its beginning. -/
def begin (respond : Responder σ) (p : Progress σ) : Progress σ :=
  match post respond "/api/meta-model" Program.capabilities p with
  | (p, .error e) => fail p e
  | (p, .ok ()) => runRounds respond p.simulator.rounds.toNat p

/-- Give a scenario that has not begun its turn, and every turn after a suspension that is no sleep. -/
def settle (respond : Responder σ) (p : Progress σ) : Progress σ :=
  match p.simulator.scenario with
  | .ready => begin respond p
  | _ => p

/-- Let a sleep end. A scenario that has not begun has its turn instead. -/
def tick (respond : Responder σ) (p : Progress σ) : Progress σ :=
  match p.simulator.scenario with
  | .asleep n => runRounds respond n p
  | _ => settle respond p

def closeClient (s : Simulator) : Simulator :=
  if s.hasClient then { s with hasClient := false, clientsClosed := s.clientsClosed + 1 } else s

def openClient (s : Simulator) : Simulator :=
  { s with hasClient := true, clientsCreated := s.clientsCreated + 1 }

/-- Start a scenario with a new program and a new client, unless one is running. -/
def start (s : Simulator) : Simulator :=
  if s.isRunning then s
  else { s.closeClient.openClient.newProgram with going := true, scenario := .ready }

/-- Stop the scenario where it stands and close the client. -/
def stop (s : Simulator) : Simulator :=
  let s := { s with going := false, scenario := if s.isRunning then .finished else s.scenario }
  s.closeClient

/-- Ask the scenario to end at its next round. -/
def halt (s : Simulator) : Simulator := { s with going := false }

/-! ### Runs -/

inductive Op
  | start
  | stop
  | settle
  | tick
  | halt
  | newProgram
  | nextBatch
  | post (path : String) (body : Json)

def Op.run (respond : Responder σ) (p : Progress σ) : Op → Progress σ
  | .start => { p with simulator := p.simulator.start }
  | .stop => { p with simulator := p.simulator.stop }
  | .settle => Simulator.settle respond p
  | .tick => Simulator.tick respond p
  | .halt => { p with simulator := p.simulator.halt }
  | .newProgram => { p with simulator := p.simulator.newProgram }
  | .nextBatch => { p with simulator := p.simulator.nextBatch.1 }
  | .post path body => (Simulator.post respond path body p).1

def run (respond : Responder σ) (ops : List Op) (p : Progress σ) : Progress σ :=
  ops.foldl (Op.run respond) p

@[simp] theorem run_nil (respond : Responder σ) (p : Progress σ) : run respond [] p = p := rfl

@[simp] theorem run_cons (respond : Responder σ) (op : Op) (ops : List Op) (p : Progress σ) :
    run respond (op :: ops) p = run respond ops (op.run respond p) := rfl

theorem run_append (respond : Responder σ) (ops more : List Op) (p : Progress σ) :
    run respond (ops ++ more) p = run respond more (run respond ops p) := List.foldl_append

end Simulator

end TraceGraph
