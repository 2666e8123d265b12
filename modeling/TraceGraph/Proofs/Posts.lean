import TraceGraph.Service

/-! Posts to the routes of the interface. Whatever headers a post has, it is served by its route, and they
show in the headers of the response alone. -/

namespace TraceGraph.Service

/-- The paths that are posted to. -/
def postPaths : List (String × Route) :=
  [("/api/meta-model", .metaModel), ("/api/trace-data", .traceData), ("/api/control/reset", .reset),
    ("/api/control/sim/start", .startSim), ("/api/control/sim/stop", .stopSim)]

def Request.post (path : String) (body : Option Json) (headers : List (String × String)) : Request :=
  ⟨"POST", path, body, headers⟩

theorem destination_post {path : String} {route : Route} (h : (path, route) ∈ postPaths)
    (body : Option Json) (headers : List (String × String)) :
    (Request.post path body headers).destination = .route route := by
  have hpaths : ∀ x ∈ postPaths, path? x.1 = some x.1.toList ∧ Route.ofPath? x.1.toList = some x.2 := by
    decide +kernel
  obtain ⟨hpath, hroute⟩ := hpaths _ h
  have htarget : (Request.post path body headers).target = path := rfl
  rw [Request.destination, htarget, hpath, Option.map_some, Option.getD_some, destination, hroute]

/-- A post is served by its route, but for headers that are added to the response. -/
theorem handle_post (s : Service) {path : String} {route : Route} (h : (path, route) ∈ postPaths)
    (body : Option Json) (headers : List (String × String)) :
    ∃ added, s.handle (.post path body headers) =
      ((s.serveRoute route body).1, { (s.serveRoute route body).2 with headers := added }) := by
  have hmethods : ∀ x ∈ postPaths, x.2.method = "POST" := by decide
  have hupper : (Request.post path body headers).method.toUpper = "POST" := by
    change "POST".toUpper = "POST"
    decide +kernel
  have hserve : s.serve "POST" (.post path body headers) = s.serveRoute route body := by
    unfold serve
    rewrite [destination_post h]
    exact if_pos (hmethods _ h).symm
  generalize s.serveRoute route body = answer at hserve ⊢
  obtain ⟨s', status, content, own⟩ := answer
  cases horigin : (Request.post path body headers).header? "origin" with
  | none => exact ⟨own, by simp [handle, hupper, horigin, hserve]⟩
  | some origin =>
    by_cases hstatus : status = 500
    · exact ⟨own, by simp [handle, hupper, horigin, hserve, hstatus]⟩
    · exact ⟨originHeaders origin, by simp [handle, hupper, horigin, hserve, hstatus]⟩

end TraceGraph.Service
