import Mathlib.Data.List.Forall2
import TraceGraph.Proofs.Ingestion
import TraceGraph.Proofs.Program
import TraceGraph.Proofs.Turns

/-! Posts of the simulator that come in at the interface. Its capabilities are installed and its batches
taken in, each post is answered 200, and so the scenario goes on until it sleeps or has run all rounds. -/

namespace TraceGraph

open Simulator

namespace Service

/-- The paths that the simulator posts to. -/
def simulatorPaths : List (String × Route) := [("/api/meta-model", .metaModel), ("/api/trace-data", .traceData)]

/-- Posts below a URL come in at the interface, and their answers come back. -/
def Delivers (apiUrl : String) : Prop :=
  ∀ x ∈ simulatorPaths, ∃ url, Url.read? (apiUrl ++ x.1) = some url ∧ url.isAbsolute ∧
    destination (decodePath url.fromRoot) = .route x.2

theorem respond_of_delivers {apiUrl path : String} {route : Route} (h : Delivers apiUrl)
    (hpath : (path, route) ∈ simulatorPaths) (s : Session) (body : Json) :
    respond s ⟨apiUrl ++ path, body⟩ =
      ((serveSession s route (some body)).1, postResult (serveSession s route (some body)).2) := by
  obtain ⟨url, hread, habsolute, hdestination⟩ := h _ hpath
  have hmethods : ∀ x ∈ simulatorPaths, x.2.method = "POST" := by decide
  have hserve : servePost s url.fromRoot body = serveSession s route (some body) := by
    rw [servePost, hdestination]
    exact if_pos (hmethods _ hpath)
  simp only [respond, hread, hserve, habsolute, if_true]

end Service

open Service

/-- The batch that the body of a post writes. -/
def Post.batch? (p : Post) : Option Batch :=
  match Payload.batch Payload.asBody p.body with
  | .pass b => some b
  | .fail _ => none

/-- The post that a scenario begins with. -/
def introduction (apiUrl : String) : Post := ⟨apiUrl ++ "/api/meta-model", Program.capabilities⟩

namespace Simulator

/-- The post was answered 200. -/
def Exchange.Succeeded (x : Exchange) : Prop := ∃ v, x.2 = .answered 200 v

/-- A batch was posted to the route for trace data, and that was answered 200. -/
structure Exchange.Carries (apiUrl : String) (x : Exchange) (b : Batch) : Prop where
  url : x.1.url = apiUrl ++ "/api/trace-data"
  batch : x.1.batch? = some b
  succeeded : x.Succeeded

/-- A scenario is streaming. The session has its meta-model and all that the program at hand has told. -/
structure Streaming (p : Progress (Session × List Exchange)) (earlier : List (List Batch))
    (current kept : List Batch) : Prop where
  url : Delivers p.simulator.apiUrl
  client : p.simulator.hasClient
  after : p.simulator.program.After earlier current
  holds : p.world.1.Holds (Program.historyOf kept)
  metaModel : p.world.1.metaModel? = some Program.metaModel
  held : current ⊆ kept

variable {p : Progress (Session × List Exchange)} {earlier : List (List Batch)} {current kept : List Batch}

/-- A post that is answered 200 with an object is recorded, and nothing breaks off. -/
theorem post_recorded {σ : Type} {respond : Responder σ} {p : Progress (σ × List Exchange)} {path : String}
    {body : Json} {world : σ} {ms : List (String × Json)} (hclient : p.simulator.hasClient)
    (h : respond p.world.1 ⟨p.simulator.apiUrl ++ path, body⟩ = (world, .answered 200 (.object ms))) :
    ∃ q, post (recorded respond) path body p = (q, .ok ()) ∧ q.simulator = p.simulator ∧
      q.world = (world,
        p.world.2 ++ [(⟨p.simulator.apiUrl ++ path, body⟩, .answered 200 (.object ms))]) := by
  rw [post, if_pos hclient]
  simp only [recorded, h]
  exact ⟨_, rfl, rfl, rfl⟩

/-- One more batch of a streaming scenario is taken in. -/
theorem Streaming.postBatch (h : Streaming p earlier current kept) :
    ∃ q x, Simulator.postBatch (recorded respond) p = (q, .ok ()) ∧
      q.simulator = { p.simulator with program := p.simulator.program.next } ∧
      q.world.2 = p.world.2 ++ [x] ∧ x.Carries p.simulator.apiUrl p.simulator.program.batch ∧
      Streaming q earlier (current ++ [p.simulator.program.batch]) (kept ++ [p.simulator.program.batch]) := by
  have hpath : ("/api/trace-data", Route.traceData) ∈ simulatorPaths := by decide
  have hpass := p.simulator.program.batch_nextBatch Payload.asBody
  have hnext : p.simulator.nextBatch =
      ({ p.simulator with program := p.simulator.program.next }, p.simulator.program.nextBatch.2) := by
    rw [Simulator.nextBatch, ← Program.nextBatch_fst]
  obtain ⟨v, hv, hmodel⟩ := Option.bind_eq_some_iff.1 h.metaModel
  obtain ⟨hok, hmodel', hholds⟩ := h.after.absorb hmodel (h.holds.view hv) h.held
  have hrespond : respond p.world.1
      ⟨p.simulator.apiUrl ++ "/api/trace-data", p.simulator.program.nextBatch.2⟩ =
        ({ p.world.1 with view := some (v.absorb p.simulator.program.batch).view },
          .answered 200 (.object [("status", .text "ok"),
            ("stats", (v.absorb p.simulator.program.batch).view.stats.toJson)])) := by
    rw [respond_of_delivers h.url hpath, serveSession_traceData hpass, ingestBatch_of_absorbed hv hok]
    rfl
  have hclient : p.simulator.nextBatch.1.hasClient := by
    rw [hnext]
    exact h.client
  have hurl : p.simulator.nextBatch.1.apiUrl = p.simulator.apiUrl := by rw [hnext]
  obtain ⟨q, hpost, hsimulator, hworld⟩ :=
    post_recorded (p := { p with simulator := p.simulator.nextBatch.1 }) hclient (hurl ▸ hrespond)
  dsimp only at hpost hsimulator hworld
  rw [hnext] at hpost hsimulator hworld
  refine ⟨q, _, hpost, hsimulator, congrArg Prod.snd hworld, ⟨rfl, ?_, _, rfl⟩, ?_, ?_, ?_, ?_, ?_, ?_⟩
  · rw [Post.batch?, hpass]
  · rw [hsimulator]
    exact h.url
  · rw [hsimulator]
    exact h.client
  · rw [hsimulator]
    exact h.after.next
  · rw [hworld]
    exact hholds
  · rw [hworld]
    exact hmodel'
  · exact List.append_subset.2
      ⟨List.subset_append_of_subset_left _ h.held, List.subset_append_right _ _⟩

/-- What comes of a turn in which a streaming scenario posts some batches. It then sleeps or is over. -/
structure Streamed (p q : Progress (Session × List Exchange)) (earlier : List (List Batch))
    (current kept bs : List Batch) : Prop where
  frame : q.simulator =
    { p.simulator with program := q.simulator.program, scenario := q.simulator.scenario }
  record : ∃ xs, q.world.2 = p.world.2 ++ xs ∧ List.Forall₂ (Exchange.Carries p.simulator.apiUrl) xs bs
  streaming : Streaming q earlier (current ++ bs) (kept ++ bs)
  notReady : q.simulator.scenario ≠ .ready

theorem Streaming.pause (h : Streaming p earlier current kept) {q : Progress (Session × List Exchange)}
    {scenario : Scenario} (hsimulator : q.simulator = { p.simulator with scenario })
    (hworld : q.world = p.world) (hscenario : scenario ≠ .ready) : Streamed p q earlier current kept [] := by
  refine ⟨?_, ⟨[], ?_, .nil⟩, ?_, ?_⟩
  · rw [hsimulator]
  · rw [hworld, List.append_nil]
  · rw [List.append_nil, List.append_nil]
    refine ⟨?_, ?_, ?_, ?_, ?_, h.held⟩
    · rw [hsimulator]; exact h.url
    · rw [hsimulator]; exact h.client
    · rw [hsimulator]; exact h.after
    · rw [hworld]; exact h.holds
    · rw [hworld]; exact h.metaModel
  · rw [hsimulator]
    exact hscenario

/-- Posting one batch before others. -/
theorem Streamed.cons {p q r : Progress (Session × List Exchange)} {x : Exchange} {bs : List Batch} {b : Batch}
    (hsimulator : q.simulator = { p.simulator with program := q.simulator.program })
    (hrecord : q.world.2 = p.world.2 ++ [x]) (hx : x.Carries p.simulator.apiUrl b)
    (h : Streamed q r earlier (current ++ [b]) (kept ++ [b]) bs) :
    Streamed p r earlier current kept (b :: bs) := by
  obtain ⟨xs, hxs, hcarries⟩ := h.record
  have hurl : q.simulator.apiUrl = p.simulator.apiUrl := by rw [hsimulator]
  refine ⟨?_, ⟨x :: xs, ?_, .cons hx (hurl ▸ hcarries)⟩, ?_, h.notReady⟩
  · rw [h.frame, hsimulator]
  · rw [hxs, hrecord, List.append_assoc, List.singleton_append]
  · have hstreaming := h.streaming
    rwa [List.append_assoc, List.append_assoc, List.singleton_append] at hstreaming

/-- A streaming scenario goes on until it sleeps or has run its rounds. -/
theorem Streaming.runRounds (h : Streaming p earlier current kept) (n : Nat) :
    ∃ bs, Streamed p (Simulator.runRounds (recorded respond) n p) earlier current kept bs ∧
      (p.simulator.going → 0 < n → ∃ rest, bs = p.simulator.program.batch :: rest) := by
  -- A batch that is taken in lengthens what is told and what is held alike.
  induction n generalizing p current kept with
  | zero => exact ⟨[], h.pause rfl rfl (by decide), fun _ hpos => absurd hpos (Nat.lt_irrefl 0)⟩
  | succ n ih =>
    rw [Simulator.runRounds]
    by_cases hgoing : p.simulator.going
    · obtain ⟨q, x, hpost, hsimulator, hrecord, hx, hq⟩ := h.postBatch
      have hframe : q.simulator = { p.simulator with program := q.simulator.program } := by rw [hsimulator]
      rw [if_pos hgoing, hpost]
      dsimp only
      by_cases hinterval : q.simulator.interval.gtInt 0
      · rw [if_pos hinterval]
        exact ⟨_, .cons hframe hrecord hx (hq.pause rfl rfl Scenario.noConfusion), fun _ _ => ⟨_, rfl⟩⟩
      · rw [if_neg hinterval]
        obtain ⟨bs, hbs, -⟩ := ih hq
        exact ⟨_, .cons hframe hrecord hx hbs, fun _ _ => ⟨_, rfl⟩⟩
    · rw [if_neg hgoing]
      exact ⟨[], h.pause rfl rfl (by decide), fun hg => absurd hg hgoing⟩

/-- A scenario that has its first turn introduces its program's meta-model. -/
theorem post_introduction (hurl : Delivers p.simulator.apiUrl) (hclient : p.simulator.hasClient)
    (hafter : p.simulator.program.After earlier []) (hholds : p.world.1.Holds (Program.historyOf kept)) :
    ∃ q x, post (recorded respond) "/api/meta-model" Program.capabilities p = (q, .ok ()) ∧
      q.simulator = p.simulator ∧ q.world.2 = p.world.2 ++ [x] ∧
      x.1 = introduction p.simulator.apiUrl ∧ x.Succeeded ∧ Streaming q earlier [] kept := by
  have hpath : ("/api/meta-model", Route.metaModel) ∈ simulatorPaths := by decide
  have hrespond : respond p.world.1 ⟨p.simulator.apiUrl ++ "/api/meta-model", Program.capabilities⟩ =
      ((p.world.1.install Program.metaModel).session, .answered 200 (.object [("status", .text "ok")])) := by
    rw [respond_of_delivers hurl hpath]
    rfl
  obtain ⟨q, hpost, hsimulator, hworld⟩ := post_recorded hclient hrespond
  refine ⟨q, _, hpost, hsimulator, congrArg Prod.snd hworld, rfl, ⟨_, rfl⟩, ?_, ?_, ?_, ?_, ?_, List.nil_subset _⟩
  · rw [hsimulator]
    exact hurl
  · rw [hsimulator]
    exact hclient
  · rw [hsimulator]
    exact hafter
  · rw [hworld]
    exact hholds.install Program.metaModel
  · rw [hworld]
    cases hv : p.world.1.view <;> simp [Session.metaModel?, Session.install, hv, View.new, View.setMetaModel]

end Simulator

end TraceGraph
