import TraceGraph.Payload
import TraceGraph.Service.Response
import TraceGraph.Settings
import TraceGraph.Simulator

/-! The HTTP interface to a session and a simulator. Requests take in meta-models and trace data, read
the graph and move nodes; control requests reset the session and start and stop the simulator, whose
posts come back to the same interface. -/

namespace TraceGraph

namespace Service

open Response

/-! ### Requests to the session -/

/-- The response to a body that must be checked first. -/
def withBody (s : Session) (body : Option Json) (check : Json → Checked α)
    (f : α → Session × Response) : Session × Response :=
  match body with
  | none => (s, invalid [⟨[], .missing, .null⟩])
  | some v =>
    match check v with
    | .pass a => f a
    | .fail issues => (s, invalid issues)

def dictionary : Json → Checked Json
  | .object ms => .pass (.object ms)
  | v => .refuse .notDictionary v

/-- Install the meta-model of a capabilities object. An infinite number there is an unforeseen failure;
any other mistake is the sender's. -/
def installCapabilities (s : Session) (capabilities : Json) : Session × Response :=
  match Capabilities.metaModel capabilities with
  | .ok m => ((s.install m).session, .ok (.object [("status", .text "ok")]))
  | .error .infinite => (s, serverError)
  | .error (.notAnObject _) => (s, serverError)
  | .error e => (s, refusal 422 s!"Invalid capabilities: {e.message}")

/-- Ingest a batch and answer with the counters after it. -/
def ingestBatch (s : Session) (b : Batch) : Session × Response :=
  let r := s.ingest b
  let answer := r.answer.bind fun _ => r.session.stats.answer
  (r.session, ofAnswer (fun stats =>
    .ok (.object [("status", .text "ok"), ("stats", stats.toJson)])) answer)

/-- Move the visible node with a data id. -/
def moveNode (s : Session) (dataId : String) (p : Binary64 × Binary64) : Session × Response :=
  let r := s.move dataId (.float p.1) (.float p.2)
  (r.session, ofAnswer (fun
    | some n => .ok (nodeJson n)
    | none => refusal 404 s!"No visible node {dataId}") r.answer)

/-- Serve a route that concerns the session alone; the control routes do not. -/
def serveSession (s : Session) (route : Route) (body : Option Json) : Session × Response :=
  match route with
  | .metaModel => withBody s body dictionary (installCapabilities s)
  | .traceData => withBody s body (Payload.batch Payload.asBody) (ingestBatch s)
  | .position dataId => withBody s body (Payload.position Payload.asBody) (moveNode s dataId)
  | .systemView =>
    let r := s.snapshot
    (r.session, ofAnswer (fun shot => .ok (snapshotJson shot)) r.answer)
  | .stats =>
    let r := s.stats
    (r.session, ofAnswer (fun stats => .ok stats.toJson) r.answer)
  | _ => (s, notFound)

/-- How a response looks to the simulator. -/
def postResult (r : Response) : PostResult :=
  match r.content with
  | .json v => .answered r.status v
  | .text s => if r.status = 200 then .broken s else .answered r.status .null

/-- Serve a post to a path. -/
def servePost (s : Session) (path : List Char) (body : Json) : Session × Response :=
  match destination (decodePath path) with
  | .route r =>
    if r.method = "POST" then serveSession s r (some body) else (s, methodNotAllowed)
  | .redirection => (s, redirection)
  | .nowhere => (s, notFound)

/-- Answer a post of the simulator from the session. Behind a URL that is not absolute the post is served
as well, but its answer does not come back. -/
def respond : Responder Session := fun s p =>
  match Url.read? p.url with
  | none => (s, .broken s!"Invalid URL: {p.url}")
  | some url =>
    let (s, response) := servePost s url.fromRoot p.body
    (s, if url.isAbsolute then postResult response
      else .broken s!"unknown url type: {Text.quoted (String.ofList url.fromRoot)}")

end Service

/-- Which session a shutdown will end: none before a startup, the service's own, or one that it has had at
its startup and has no more. -/
inductive Lifespan
  | unstarted
  | current
  | former
  deriving DecidableEq

structure Service where
  session : Session
  simulator : Option Simulator
  lifespan : Lifespan
  /-- How many posts of the simulator have come since they were last counted. -/
  posts : Nat

namespace Service

open Response

def simRunning (s : Service) : Bool := s.simulator.any Simulator.isRunning

/-- Give the simulator some time. -/
def advance (step : Simulator.Progress Session → Simulator.Progress Session) (s : Service) : Service :=
  match s.simulator with
  | none => s
  | some sim =>
    let p := step ⟨sim, s.session, [], []⟩
    { s with session := p.world, simulator := some p.simulator, posts := s.posts + p.posts.length }

def settle : Service → Service := advance (Simulator.settle respond)

def tick : Service → Service := advance (Simulator.tick respond)

/-! ### Control -/

def controlled (s : Service) : Service × Response :=
  (s, .ok (.object [("status", .text "ok"), ("sim_running", .bool s.simRunning)]))

/-- Discard all trace data. A running simulator is stopped before and starts over after it. -/
def resetSession (s : Service) : Service :=
  if s.simRunning then
    { s with
      session := s.session.reset.session
      simulator := s.simulator.map fun sim => sim.stop.start }
  else { s with session := s.session.reset.session }

def withSimulator (s : Service) (f : Simulator → Simulator) : Service × Response :=
  match s.simulator with
  | none => (s, refusal 404 "SIM not configured")
  | some sim => controlled { s with simulator := some (f sim) }

def serveRoute (s : Service) (route : Route) (body : Option Json) : Service × Response :=
  match route with
  | .reset => controlled s.resetSession
  | .startSim => s.withSimulator Simulator.start
  | .stopSim => s.withSimulator Simulator.stop
  | route =>
    let (session, response) := serveSession s.session route body
    ({ s with session }, response)

def serve (s : Service) (method : String) (r : Request) : Service × Response :=
  match r.destination with
  | .route route =>
    if method = route.method then s.serveRoute route r.body else (s, methodNotAllowed)
  | .redirection => (s, redirection)
  | .nowhere => (s, notFound)

/-! ### Requests across origins -/

def allowedOrigins : List String := ["http://localhost:5173", "http://localhost:5174"]

def allowedMethods : List String := ["DELETE", "GET", "HEAD", "OPTIONS", "PATCH", "POST", "PUT"]

def originHeaders (origin : String) : List (String × String) :=
  ("access-control-allow-credentials", "true") ::
    if origin ∈ allowedOrigins then [("access-control-allow-origin", origin)] else []

/-- The answer to a question whether a request across origins would be allowed; one into a private
network never is. -/
def preflight (origin method : String) (intoPrivateNetwork : Bool) : Response :=
  let faults := (if origin ∈ allowedOrigins then [] else ["origin"]) ++
    (if method ∈ allowedMethods then [] else ["method"]) ++
    (if intoPrivateNetwork then ["private-network"] else [])
  if faults = [] then ⟨200, .text "OK", originHeaders origin⟩
  else ⟨400, .text ("Disallowed CORS " ++ ", ".intercalate faults), originHeaders origin⟩

/-- Handle a request. What fails in an unforeseen way says nothing about origins, and a request for the
head alone gets no body. -/
def handle (s : Service) (r : Request) : Service × Response :=
  let method := r.method.toUpper
  let (s, response) := match r.header? "origin" with
    | none => s.serve method r
    | some origin =>
      match (if method = "OPTIONS" then r.header? "access-control-request-method" else none) with
      | some asked =>
        (s, preflight origin asked (r.header? "access-control-request-private-network").isSome)
      | none =>
        let (s, response) := s.serve method r
        if response.status = 500 then (s, response)
        else (s, { response with headers := originHeaders origin })
  let response := if method = "HEAD" then { response with content := .text "" } else response
  (s, response)

/-- Handle a request and let the simulator settle after it. -/
def request (s : Service) (r : Request) : Service × Response :=
  let (s, response) := s.handle r
  (s.settle, response)

/-! ### The life of the service -/

def new (session : Session) (simulator : Option Simulator) : Service :=
  ⟨session, simulator, .unstarted, 0⟩

def startup (s : Service) (files : Files) : Service × Except Session.Error Unit :=
  let r := s.session.start files
  ({ s with
      session := r.session
      lifespan := if r.answer.isOk then .current else s.lifespan }, r.answer)

/-- Go on with another session. -/
def withSession (s : Service) (session : Session) : Service :=
  { s with session, lifespan := if s.lifespan = .current then .former else s.lifespan }

/-- End what the last startup began, if anything: the simulator stops, and so does the session. -/
def shutdown (s : Service) : Service :=
  match s.lifespan with
  | .unstarted => s
  | .current =>
    { s with
      session := s.session.stop.session
      simulator := s.simulator.map Simulator.stop
      lifespan := .unstarted }
  | .former => { s with simulator := s.simulator.map Simulator.stop, lifespan := .unstarted }

/-- Count the posts of the simulator anew. -/
def countPosts (s : Service) : Service × Nat := ({ s with posts := 0 }, s.posts)

end Service

end TraceGraph
