import TraceGraph.Proofs.Alike
import TraceGraph.Proofs.Snapshot

/-! Reads leave no trace but the places of groups. Two runs that differ only in reads end in alike views,
which show the same graph, and what nodes and links one state shows does not depend on what is read
first. -/

namespace TraceGraph

open Announcements Sequence

namespace View

variable {v w : View} {past : History}

/-! ### Snapshots of alike views -/

/-- Snapshots of alike views are taken and agree but for the places of groups. -/
theorem Alike.snapshot (h : Alike v w past) :
    ∃ v' w' s s' log log', v.snapshot = .ok (v', s, log) ∧ w.snapshot = .ok (w', s', log') ∧
      s.withoutGroupPlaces = s'.withoutGroupPlaces := by
  obtain ⟨as, as', has, has', hactivities⟩ :=
    mapM_match (listing activityThreshold past.activities) fun ref href =>
      h.left.summary_alike h.right h.activities h.passives (List.mem_append_left _ href)
  obtain ⟨bs, bs', hbs, hbs', hpassives⟩ :=
    mapM_match (listing passiveThreshold past.passives) fun ref href =>
      h.left.summary_alike h.right h.activities h.passives (List.mem_append_right _ href)
  obtain ⟨log, hlog⟩ := h.left.snapshot_eq has hbs
  obtain ⟨log', hlog'⟩ := h.right.snapshot_eq has' hbs'
  refine ⟨_, _, _, _, log, log', hlog, hlog', ?_⟩
  simp only [Snapshot.withoutGroupPlaces, hactivities, hpassives, h.maxSends]

/-! ### Runs with reads in between -/

/-- What a client calls: an operation of the view, a snapshot of it, or its counters. -/
inductive Call
  | op (o : Op)
  | snapshot
  | stats

/-- The operation that a call performs, unless it only reads. -/
def Call.change? : Call → Option Op
  | .op o => if o.isRead then none else some o
  | .snapshot | .stats => none

/-- The view after a call. -/
def Call.run (v : View) : Call → View
  | .op o => (o.run v).view
  | .snapshot =>
    match v.snapshot with
    | .ok (v, _, _) => v
    | .error _ => v
  | .stats => v

/-- The view after a list of calls. -/
def after (cs : List Call) (v : View) : View := cs.foldl Call.run v

/-- What operations answer one after the other. -/
def answers : List Op → View → List (Except Fault Answer)
  | [], _ => []
  | o :: os, v => (o.run v).answer :: answers os (o.run v).view

/-- What those calls answer that do not only read. -/
def outcomes : List Call → View → List (Except Fault Answer)
  | [], _ => []
  | c :: cs, v =>
    match c.change? with
    | some o => (o.run v).answer :: outcomes cs (c.run v)
    | none => outcomes cs (c.run v)

theorem Alike.call (h : Alike v w past) {c : Call} (hc : c.change? = none) :
    Alike (c.run v) w past := by
  cases c with
  | op o =>
    by_cases ho : o.isRead = true
    · exact h.read ho
    · rw [Call.change?, if_neg ho] at hc
      cases hc
  | snapshot =>
    obtain ⟨s, log, hlog⟩ := h.left.snapshot
    rw [Call.run, hlog]
    exact h.promoted (h.left.settledWith past.messageLinks.max) rfl rfl
  | stats => exact h

theorem Call.eq_of_change? {c : Call} {o : Op} (hc : c.change? = some o) : c = .op o ∧ o.isRead = false := by
  cases c with
  | op o' =>
    rw [Call.change?] at hc
    split at hc
    · cases hc
    · next ho =>
      obtain rfl := Option.some.inj hc
      exact ⟨rfl, Bool.eq_false_iff.2 ho⟩
  | snapshot => cases hc
  | stats => cases hc

/-- A run with reads and the run without them answer the same and end in alike views. -/
theorem Alike.calls (h : Alike v w past) (cs : List Call) :
    outcomes cs v = answers (cs.filterMap Call.change?) w ∧
      Alike (after cs v) (run (cs.filterMap Call.change?) w)
        (historyAfter (cs.filterMap Call.change?) w past) := by
  induction cs generalizing v w past with
  | nil => exact ⟨rfl, h⟩
  | cons c cs ih =>
    cases hc : c.change? with
    | none =>
      rw [List.filterMap_cons_none hc, outcomes, hc]
      exact ih (h.call hc)
    | some o =>
      obtain ⟨rfl, ho⟩ := Call.eq_of_change? hc
      obtain ⟨hanswer, halike⟩ := h.change ho
      obtain ⟨houtcomes, hafter⟩ := ih halike
      rw [List.filterMap_cons_some hc, outcomes, hc, answers, run_cons, historyAfter]
      refine ⟨?_, hafter⟩
      rw [← hanswer, ← houtcomes]
      rfl

/-! ### Readings of one state -/

/-- A link with what is said of its ends. -/
structure ShownLink where
  source : NodeSummary
  target : NodeSummary
  messageCount : Int
  creation : Bool

def shownLink (v : View) (l : Link) : Except Fault ShownLink := do
  return ⟨← v.summary l.source, ← v.summary l.target, l.messageCount, l.creation⟩

inductive Reading
  | activities
  | passives
  | links

/-- What a reading shows. -/
inductive Picture
  | nodes (ns : List NodeSummary)
  | links (ls : List ShownLink)

/-- The view after a reading, and what it shows. -/
def Reading.ask (v : View) : Reading → Except Fault (View × Picture)
  | .activities => do
    let (v, refs, _) ← v.listActivities
    return (v, .nodes (← refs.mapM v.summary))
  | .passives => do
    let (v, refs, _) ← v.listPassives
    return (v, .nodes (← refs.mapM v.summary))
  | .links => do
    let (v, ls, _) ← v.links
    return (v, .links (← ls.mapM v.shownLink))

/-- What readings show one after the other. -/
def askAll : List Reading → View → Except Fault (List Picture)
  | [], _ => .ok []
  | r :: rs, v => do
    let (v, picture) ← r.ask v
    return picture :: (← askAll rs v)

/-- Views of one history that come to the same once every crowded group is promoted. -/
structure Settles (u v : View) (past : History) : Prop where
  holds : u.Holds past
  activities : u.activities.settled = v.activities.settled
  passives : u.passives.settled = v.passives.settled

variable {u : View}

theorem summary_congr (hactivities : u.activities = v.activities) (hpassives : u.passives = v.passives) :
    u.summary = v.summary := by
  funext ref
  unfold summary node?
  rw [hactivities, hpassives]

theorem Settles.summary_listedActivities (h : Settles u v past) {ref : NodeRef}
    (href : ref ∈ listing activityThreshold past.activities) :
    View.summary { u with activities := u.activities.listed } ref = v.settled.summary ref := by
  obtain ⟨n, -, hn, -⟩ := h.holds.activities.node?_alike h.holds.activities rfl href
  have hlisted : View.node? { u with activities := u.activities.listed } ref = _ :=
    node?_activity ((h.holds.activities.node?_listed href).trans hn)
  have hsettled : v.settled.node? ref = _ := node?_activity (by rwa [h.activities] at hn)
  rw [summary, summary, hlisted, hsettled]

theorem Settles.summary_listedPassives (h : Settles u v past) {ref : NodeRef}
    (href : ref ∈ listing passiveThreshold past.passives) :
    View.summary { u with passives := u.passives.listed } ref = v.settled.summary ref := by
  obtain ⟨n, -, hn, -⟩ := h.holds.passives.node?_alike h.holds.passives rfl href
  have hlisted : View.node? { u with passives := u.passives.listed } ref = _ :=
    node?_passive ((h.holds.passives.node?_listed href).trans hn)
  have hsettled : v.settled.node? ref = _ := node?_passive (by rwa [h.passives] at hn)
  rw [summary, summary, hlisted, hsettled]

theorem Settles.listActivities (h : Settles u v past) :
    Settles { u with activities := u.activities.listed } v past :=
  ⟨h.holds.mapPopulations h.holds.activities.listed h.holds.passives,
    (Population.settled_listed _).trans h.activities, h.passives⟩

theorem Settles.listPassives (h : Settles u v past) :
    Settles { u with passives := u.passives.listed } v past :=
  ⟨h.holds.mapPopulations h.holds.activities h.holds.passives.listed, h.activities,
    (Population.settled_listed _).trans h.passives⟩

theorem Settles.links (h : Settles u v past) (n : Int) :
    Settles { u.settled with maxLink := n } v past :=
  ⟨h.holds.settledWith n, (Population.settled_settled _).trans h.activities,
    (Population.settled_settled _).trans h.passives⟩

theorem Holds.shownLink_settled (h : v.Holds past) {l : Link} (hl : l ∈ past.links) :
    ∃ shown, v.settled.shownLink l = .ok shown := by
  obtain ⟨hsource, htarget⟩ := h.closed.ends_mem_nodes hl
  obtain ⟨s, hs⟩ := h.summary_settled hsource
  obtain ⟨t, ht⟩ := h.summary_settled htarget
  refine ⟨⟨s, t, l.messageCount, l.creation⟩, ?_⟩
  simp only [shownLink, hs, ht, bind, Except.bind, pure, Except.pure]

/-- What a reading shows is settled before any group is promoted. -/
theorem Holds.picture (h : v.Holds past) :
    ∃ picture : Reading → Picture, ∀ u, Settles u v past →
      ∀ r, ∃ u', Reading.ask u r = .ok (u', picture r) ∧ Settles u' v past := by
  obtain ⟨as, has⟩ := exists_mapM_eq_ok fun ref href => h.summary_settled (List.mem_append_left _ href)
  obtain ⟨bs, hbs⟩ := exists_mapM_eq_ok fun ref href => h.summary_settled (List.mem_append_right _ href)
  obtain ⟨ls, hls⟩ := exists_mapM_eq_ok fun l hl => h.shownLink_settled hl
  refine ⟨fun r => match r with
    | .activities => .nodes as
    | .passives => .nodes bs
    | .links => .links ls, fun u hu r => ?_⟩
  cases r with
  | activities =>
    obtain ⟨log, hlog⟩ := hu.holds.listActivities
    refine ⟨_, ?_, hu.listActivities⟩
    rw [← mapM_congr fun ref href => hu.summary_listedActivities href] at has
    simp only [Reading.ask, hlog, bind, Except.bind, pure, Except.pure, has]
  | passives =>
    obtain ⟨log, hlog⟩ := hu.holds.listPassives
    refine ⟨_, ?_, hu.listPassives⟩
    rw [← mapM_congr fun ref href => hu.summary_listedPassives href] at hbs
    simp only [Reading.ask, hlog, bind, Except.bind, pure, Except.pure, hbs]
  | links =>
    obtain ⟨log, hlog⟩ := hu.holds.links
    refine ⟨_, ?_, hu.links past.messageLinks.max⟩
    have hsummary : View.summary { u.settled with maxLink := past.messageLinks.max } =
        v.settled.summary := summary_congr hu.activities hu.passives
    have hshown : View.shownLink { u.settled with maxLink := past.messageLinks.max } =
        v.settled.shownLink := by
      funext l
      simp only [shownLink, hsummary]
    simp only [Reading.ask, hlog, bind, Except.bind, pure, Except.pure, hshown, hls]

/-- Readings of one state show the same in any order and however often. -/
theorem Holds.askAll (h : v.Holds past) :
    ∃ picture : Reading → Picture, ∀ rs, askAll rs v = .ok (rs.map picture) := by
  obtain ⟨picture, hpicture⟩ := h.picture
  refine ⟨picture, fun rs => ?_⟩
  have hall : ∀ u, Settles u v past → View.askAll rs u = .ok (rs.map picture) := by
    induction rs with
    | nil => exact fun _ _ => rfl
    | cons r rs ih =>
      intro u hu
      obtain ⟨u', hask, hu'⟩ := hpicture u hu r
      simp only [View.askAll, hask, ih u' hu', bind, Except.bind, pure, Except.pure, List.map_cons]
  exact hall v ⟨h, rfl, rfl⟩

/-! ### Transparency -/

/-- Two runs that differ only in reads answer the same otherwise, and the snapshots at the end agree but
for the places of groups. The nodes and links of the state reached do not depend on the order in which
they are read. -/
theorem reads_transparent (m : Option MetaModel) (cs ds : List Call)
    (h : cs.filterMap Call.change? = ds.filterMap Call.change?) :
    outcomes cs (new m) = outcomes ds (new m) ∧
    (∃ v w s s' log log', (after cs (new m)).snapshot = .ok (v, s, log) ∧
      (after ds (new m)).snapshot = .ok (w, s', log') ∧ s.withoutGroupPlaces = s'.withoutGroupPlaces) ∧
    ∃ picture : Reading → Picture, ∀ rs, askAll rs (after cs (new m)) = .ok (rs.map picture) := by
  obtain ⟨hcs, hleft⟩ := (holds_new m).alike_self.calls cs
  obtain ⟨hds, hright⟩ := (holds_new m).alike_self.calls ds
  rw [← h] at hds hright
  refine ⟨hcs.trans hds.symm, (hleft.join hright).snapshot, hleft.left.askAll⟩

/-- Two batches and a move, with reads in between: the group is promoted before its last member comes. -/
def readRun : List Call :=
  [.op (.ingest ⟨[⟨1, "main", 0, none, true⟩, ⟨2, "worker", 0, some 1, true⟩, ⟨3, "worker", 0, some 1, true⟩,
      ⟨4, "worker", 0, some 1, true⟩, ⟨5, "worker", 0, some 1, true⟩, ⟨6, "worker", 0, some 1, true⟩],
      [], [], []⟩),
    .op .links, .stats, .op (.find "ag1"),
    .op (.ingest ⟨[⟨7, "worker", 0, some 6, true⟩], [], [], []⟩),
    .snapshot,
    .op (.move "e1" (some (.int 7)) none),
    .op .listActivities]

/-- The same without the reads. -/
def unreadRun : List Call := (readRun.filterMap Call.change?).map .op

theorem reads_transparent_readRun :
    let m : MetaModel := ⟨Table.empty, Table.empty⟩
    readRun.filterMap Call.change? = unreadRun.filterMap Call.change? ∧
    outcomes readRun (new m) = outcomes unreadRun (new m) ∧
    (∃ v w s s' log log', (after readRun (new m)).snapshot = .ok (v, s, log) ∧
      (after unreadRun (new m)).snapshot = .ok (w, s', log') ∧
      s.withoutGroupPlaces = s'.withoutGroupPlaces) ∧
    ∃ picture : Reading → Picture, ∀ rs, askAll rs (after readRun (new m)) = .ok (rs.map picture) := by
  intro m
  have hchanges : readRun.filterMap Call.change? = unreadRun.filterMap Call.change? := rfl
  exact ⟨hchanges, reads_transparent m readRun unreadRun hchanges⟩

end View

end TraceGraph
