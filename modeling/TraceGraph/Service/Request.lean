import TraceGraph.Service.Route
import TraceGraph.Service.Target

/-! Requests to the HTTP interface. -/

namespace TraceGraph.Service

structure Request where
  method : String
  target : String
  /-- The JSON body, if there is any. -/
  body : Option Json
  headers : List (String × String)

/-- The value of a header, whose name may be written in any case. -/
def Request.header? (r : Request) (name : String) : Option String :=
  (r.headers.find? fun h => h.1.toLower = name).map Prod.snd

/-- Where a request goes; a target that cannot be read leads nowhere. -/
def Request.destination (r : Request) : Destination :=
  ((path? r.target).map Service.destination).getD .nowhere

end TraceGraph.Service
