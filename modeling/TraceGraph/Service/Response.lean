import TraceGraph.Session
import TraceGraph.Validation
import TraceGraph.Service.Request

/-! Responses of the HTTP interface, and how the answers of a session are written in them. -/

namespace TraceGraph.Service

inductive Content
  | json (v : Json)
  | text (s : String)

/-- A response with a status, a body and its headers for requests across origins. -/
structure Response where
  status : Nat
  content : Content
  headers : List (String × String)

namespace Response

def ok (v : Json) : Response := ⟨200, .json v, []⟩

/-- A refusal with its reason. -/
def refusal (status : Nat) (detail : String) : Response :=
  ⟨status, .json (.object [("detail", .text detail)]), []⟩

def notFound : Response := refusal 404 "Not Found"

def methodNotAllowed : Response := refusal 405 "Method Not Allowed"

def redirection : Response := ⟨307, .text "", []⟩

/-- The answer to a request that failed in an unforeseen way. -/
def serverError : Response := ⟨500, .text "Internal Server Error", []⟩

def placeJson : Place → Json
  | .field name => .text name
  | .index i => .int i

def issueJson (i : Issue) : Json :=
  .object [("type", .text i.problem.code), ("loc", .list (i.place.map placeJson)),
    ("msg", .text i.problem.message)]

/-- The issues of a body. The values given are to be shown with them, and where standard JSON cannot
write one of these the response fails. -/
def invalid (issues : List Issue) : Response :=
  if issues.all fun i => i.given.isStandard then
    ⟨422, .json (.object [("detail",
      .list (issues.map fun i => issueJson (i.under (.field "body"))))]), []⟩
  else serverError

/-- A coordinate; one that is not finite is not written. -/
def coordinateJson (c : Number) : Json :=
  match c with
  | .real x => if x.isFinite then .float x else .null
  | c => c.toJson

def nodeJson (n : NodeSummary) : Json :=
  .object [("data_id", .text n.dataId), ("view_id", .text n.viewId), ("kind", .text n.kind.name),
    ("is_group", .bool n.isGroup), ("group_size", .int n.size), ("label", .text n.label),
    ("query", .text n.query), ("x", coordinateJson n.x), ("y", coordinateJson n.y)]

def linkJson (l : LinkSummary) : Json :=
  .object [("source", .text l.source), ("target", .text l.target),
    ("message_count", .int l.messageCount), ("creation", .bool l.creation)]

def snapshotJson (s : Snapshot) : Json :=
  .object [("activity_nodes", .list (s.activityNodes.map nodeJson)),
    ("entity_nodes", .list (s.entityNodes.map nodeJson)), ("links", .list (s.links.map linkJson)),
    ("max_message_sends", .int s.maxSends), ("max_link_count", .int s.maxLink)]

/-- The response to an answer of the session. Without a meta-model requests conflict with its state, and
what breaks the sequencing is refused. -/
def ofAnswer (write : α → Response) : Except Session.Error α → Response
  | .ok a => write a
  | .error .notInstalled => refusal 409 (Session.Error.message .notInstalled)
  | .error (.fault (.sequencing e)) => refusal 422 e.message
  | .error _ => serverError

end Response

end TraceGraph.Service
