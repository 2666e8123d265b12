import TraceGraph.Proofs.Assignment
import TraceGraph.Proofs.DataId
import TraceGraph.Service

/-! The data id shown for a node leads to that node: it is found by it, and a position put to its address
moves it and nothing else. Only a passive entity with the id of an activity is hidden behind that, as long
as both are shown by nodes of their own. -/

namespace TraceGraph

open Announcements

/-! ### Addresses -/

namespace Path

theorem segments_of_not_mem {cs : List Char} (h : '/' ∉ cs) : segments cs = [cs] := by
  induction cs with
  | nil => rfl
  | cons c cs ih =>
    rw [List.mem_cons, not_or] at h
    rw [segments, ih h.2]
    exact Ne.symm h.1

theorem segments_append {cs : List Char} (h : '/' ∉ cs) (rest : List Char) :
    segments (cs ++ '/' :: rest) = cs :: segments rest := by
  induction cs with
  | nil => simp [segments]
  | cons c cs ih =>
    rw [List.mem_cons, not_or] at h
    rw [List.cons_append, segments, ih h.2]
    exact Ne.symm h.1

end Path

namespace Service

/-- The path to put a node's position to. -/
def positionPath (dataId : String) : String := "/api/nodes/" ++ dataId ++ "/position"

theorem destination_positionPath {dataId : String} (hne : dataId ≠ "") (hslash : '/' ∉ dataId.toList) :
    destination (positionPath dataId).toList = .route (.position dataId) := by
  have hchars : (positionPath dataId).toList =
      '/' :: ("api".toList ++ '/' :: ("nodes".toList ++ '/' ::
        (dataId.toList ++ '/' :: "position".toList))) := by
    simp [positionPath]
  have hline : (positionPath dataId).toList.getLast? ≠ some '\n' := by
    rw [positionPath, String.toList_append, List.getLast?_append]
    exact nofun
  have hsegments : Path.segments (positionPath dataId).toList =
      [[], "api".toList, "nodes".toList, dataId.toList, "position".toList] := by
    rw [hchars, ← List.nil_append ('/' :: _), Path.segments_append (by simp),
      Path.segments_append (by decide), Path.segments_append (by decide), Path.segments_append hslash,
      Path.segments_of_not_mem (by decide)]
  have hroute : Route.ofPath? (positionPath dataId).toList = some (.position dataId) := by
    rw [Route.ofPath?, Route.withoutLineBreak, if_neg hline, hsegments]
    simp [Route.ofSegments?, hne]
  rw [destination, hroute]

end Service

namespace Identifier

theorem slash_not_mem_repr (i : Int) : '/' ∉ i.repr.toList := not_mem_repr (by decide) (by decide) i

end Identifier

/-- The data id of a node can stand in a path. -/
theorem NodeRef.destination_dataId {ref : NodeRef} (h : ref.kind ≠ .dynamicScope) :
    Service.destination (Service.positionPath ref.dataId).toList = .route (.position ref.dataId) := by
  apply Service.destination_positionPath
  · intro hempty
    have hhead := head?_dataId h
    rw [hempty] at hhead
    cases hhead
  · rcases ref with e | ⟨kind, n⟩
    · simp [dataId, Identifier.entity, Identifier.slash_not_mem_repr]
    · cases kind with
      | activity => simp [dataId, Identifier.group?, Identifier.groupMark?, Identifier.slash_not_mem_repr]
      | passiveEntity => simp [dataId, Identifier.group?, Identifier.groupMark?, Identifier.slash_not_mem_repr]
      | dynamicScope => exact absurd rfl h

/-! ### Positions put to an address -/

namespace View

variable {v : View} {past : History}

/-- A listed node that is moved is shown as the same node. -/
theorem Holds.summary_place (h : v.Holds past) {ref : NodeRef} (href : ref ∈ past.nodes)
    (x y : Option Number) : ∃ s, (v.listed.place ref x y).summary ref = .ok s ∧ s.dataId = ref.dataId := by
  obtain ⟨s, hs⟩ := h.summary_settled href
  obtain ⟨n, hn, hsummary⟩ := summary_eq_ok_iff.1 hs
  obtain ⟨s', hs', hid⟩ := AnyNode.summary?_place x y hsummary
  refine ⟨s', summary_of_node? ?_ hs', hid.trans (h.settled.dataId_of_summary hs)⟩
  rw [node?_place, if_pos rfl, h.node?_listed href, hn, Option.map_some]

end View

/-- A position that is put to the address of a node is assigned to that node, and every other node stays
as it is. The view is `v` before, and `w` is the view after both listings. -/
def Service.MovesAlone (v w : View) (ref : NodeRef) : Prop :=
  ∀ (s : Service) (body : Json) (x y : Binary64), s.session.view = some v →
    Payload.position Payload.asBody body = .pass (x, y) →
    ∃ u n, s.serveRoute (.position ref.dataId) (some body) =
        ({ s with session := { s.session with view := some u } }, Response.ok (Response.nodeJson n)) ∧
      u.summary ref = .ok n ∧ n.dataId = ref.dataId ∧
      ∀ r, u.node? r =
        if r = ref then (w.node? r).map (·.place (some (.real x)) (some (.real y))) else w.node? r

theorem View.Holds.movesAlone {v : View} {past : History} (h : v.Holds past) {ref : NodeRef}
    (hfind : past.nodes.find? (·.dataId = ref.dataId) = some ref) :
    Service.MovesAlone v v.listed ref := by
  intro s body x y hview hbody
  obtain ⟨log, hmove⟩ := h.move_eq hfind (some (.real x)) (some (.real y))
  obtain ⟨n, hn, hid⟩ :=
    h.summary_place (List.mem_of_find?_eq_some hfind) (some (.real x)) (some (.real y))
  refine ⟨_, n, ?_, hn, hid, v.listed.node?_place ref _ _⟩
  have hmove' : v.move ref.dataId (some (.float x)) (some (.float y)) = _ := hmove
  simp only [Service.serveRoute, Service.serveSession, Service.withBody, hbody, Service.moveNode,
    Session.move, Session.withView, hview, hmove', hn]
  rfl

namespace View

/-- Both listings show each node once and with the data id of its reference. Two nodes share a data id
only if they are namesakes. Every other node, and of two namesakes the activity's, is found by its data
id; the path with its data id leads to the route that moves it, and there it alone is moved. -/
theorem data_ids_address_nodes (m : Option MetaModel) (ops : List Op) :
    ∃ v w as ps log more, (run ops (new m)).listActivities = .ok (v, as, log) ∧
      v.listPassives = .ok (w, ps, more) ∧ (as ++ ps).Nodup ∧
      (∀ r ∈ as ++ ps, ∃ n, w.summary r = .ok n ∧ n.dataId = r.dataId) ∧
      (∀ r ∈ as ++ ps, ∀ s ∈ as ++ ps, r.dataId = s.dataId ↔ r = s ∨ r.Namesakes s) ∧
      ∀ ref ∈ as ++ ps, (∀ id, ref = .entity ⟨.passiveEntity, id⟩ → .entity ⟨.activity, id⟩ ∉ as ++ ps) →
        (∃ log, (run ops (new m)).find ref.dataId = .ok (w, some ref, log)) ∧
        Service.destination (Service.positionPath ref.dataId).toList = .route (.position ref.dataId) ∧
        Service.MovesAlone (run ops (new m)) w ref := by
  have h := holds_run m ops
  generalize run ops (new m) = v at h ⊢
  generalize history m ops = past at h
  obtain ⟨log, hlog⟩ := h.listActivities
  obtain ⟨more, hmore⟩ := (h.mapPopulations h.activities.listed h.passives).listPassives
  refine ⟨_, v.listed, _, _, log, more, hlog, hmore, History.nodup_nodes, ?_, ?_, ?_⟩
  · intro r hr
    exact h.summary_place hr none none
  · intro r hr s hs
    exact History.dataId_eq_iff hr hs
  · intro ref href hnames
    have hfind := History.find?_dataId href hnames
    obtain ⟨log', hlog'⟩ := h.find ref.dataId
    rw [hfind] at hlog'
    exact ⟨⟨log', hlog'⟩, NodeRef.destination_dataId (History.kind_of_mem_nodes href),
      h.movesAlone hfind⟩

/-- An activity creates a passive entity with its own id. -/
def namesakeRun : List Op :=
  [.ingest ⟨[⟨1, "main", 0, none, true⟩], [⟨1, 0, ⟨"a", 1, 2, 3⟩, 1⟩], [], []⟩]

/-- Ids may be distinct within each kind and a passive entity still not be found by its data id. -/
theorem namesake_not_found :
    let m : MetaModel := ⟨Table.empty, Table.empty⟩
    let past := history m namesakeRun
    let v := run namesakeRun (new m)
    (past.activities.map Activity.id).Nodup ∧ (past.passives.map PassiveEntity.id).Nodup ∧
    (∃ w log, v.listPassives = .ok (w, [.entity ⟨.passiveEntity, 1⟩], log)) ∧
    ∃ w log, v.find (NodeRef.entity ⟨.passiveEntity, 1⟩).dataId =
      .ok (w, some (.entity ⟨.activity, 1⟩), log) := by
  intro m past v
  have h := holds_run (some m) namesakeRun
  refine ⟨by decide +kernel, by decide +kernel, ?_, ?_⟩
  · obtain ⟨log, hlog⟩ := h.listPassives
    have hlist : listing passiveThreshold past.passives = [.entity ⟨.passiveEntity, 1⟩] := by
      decide +kernel
    rw [← hlist]
    exact ⟨_, log, hlog⟩
  · obtain ⟨log, hlog⟩ := h.find (NodeRef.entity ⟨.passiveEntity, 1⟩).dataId
    have hfind : past.nodes.find? (·.dataId = (NodeRef.entity ⟨.passiveEntity, 1⟩).dataId) =
        some (.entity ⟨.activity, 1⟩) := by decide +kernel
    rw [← hfind]
    exact ⟨_, log, hlog⟩

end View

end TraceGraph
