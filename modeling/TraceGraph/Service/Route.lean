import TraceGraph.Path

/-! Routes of the HTTP interface. A path selects one, up to one line break at its end; the same path with
slashes after it is redirected there. -/

namespace TraceGraph.Service

inductive Route
  | metaModel
  | traceData
  | systemView
  | position (dataId : String)
  | stats
  | reset
  | startSim
  | stopSim
  deriving DecidableEq

namespace Route

def method : Route → String
  | systemView => "GET"
  | stats => "GET"
  | position _ => "PUT"
  | _ => "POST"

def ofSegments? : List String → Option Route
  | ["", "api", "meta-model"] => some metaModel
  | ["", "api", "trace-data"] => some traceData
  | ["", "api", "system-view"] => some systemView
  | ["", "api", "nodes", dataId, "position"] => if dataId = "" then none else some (position dataId)
  | ["", "api", "stats"] => some stats
  | ["", "api", "control", "reset"] => some reset
  | ["", "api", "control", "sim", "start"] => some startSim
  | ["", "api", "control", "sim", "stop"] => some stopSim
  | _ => none

/-- A path without the line break at its end. -/
def withoutLineBreak (cs : List Char) : List Char :=
  if cs.getLast? = some '\n' then cs.dropLast else cs

def ofPath? (cs : List Char) : Option Route :=
  ofSegments? ((Path.segments (withoutLineBreak cs)).map String.ofList)

/-- A path without the slashes at its end. -/
def withoutSlashes (cs : List Char) : List Char := (cs.reverse.dropWhile (· = '/')).reverse

end Route

/-- What a path leads to: a route, a redirection to a route without the slash at the end, or nothing. -/
inductive Destination
  | route (r : Route)
  | redirection
  | nowhere

def destination (cs : List Char) : Destination :=
  match Route.ofPath? cs with
  | some r => .route r
  | none =>
    if cs.getLast? = some '/' ∧ (Route.ofPath? (Route.withoutSlashes cs)).isSome then .redirection
    else .nowhere

end TraceGraph.Service
