import TraceGraph.Json.Writer
import TraceGraph.Service

/-! Requests and responses as lines of text. A request is a method, a target and, if it has a body, JSON
text after them, with single spaces between; a response is a JSON object with status and content. -/

namespace TraceGraph.Service

/-- The text up to a space and the text after it. -/
def splitSpace (cs : List Char) : List Char × List Char :=
  (cs.takeWhile (· ≠ ' '), (cs.dropWhile (· ≠ ' ')).tail)

/-- The request that a line writes; a body must be JSON. -/
def Request.ofLine? (line : String) : Option Request :=
  let (method, rest) := splitSpace line.toList
  let (target, body) := splitSpace rest
  let request (body : Option Json) : Request := ⟨String.ofList method, String.ofList target, body, []⟩
  if body = [] then some (request none)
  else match Json.read (String.ofList body) with
    | .ok v => some (request (some v))
    | .error _ => none

def Response.line (r : Response) : String :=
  let content := match r.content with
    | .json v => ("json", v)
    | .text s => ("text", .text s)
  (Json.object [("status", .int r.status), content]).write

/-- What a line that writes no request is answered. -/
def Response.unreadable : Response := refusal 400 "There was an error parsing the body"

/-- Answer one line. An empty line lets the simulator's pause end and has no answer. -/
def exchange (s : Service) (line : String) : Service × Option String :=
  if line = "" then (s.tick, none)
  else
    let (s, response) := match Request.ofLine? line with
      | some r => s.request r
      | none => (s, Response.unreadable)
    (s, some response.line)

end TraceGraph.Service
