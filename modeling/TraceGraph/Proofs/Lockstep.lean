import TraceGraph.Proofs.Control
import TraceGraph.Proofs.Safety

/-! A service in step with its simulator. However control requests and turns of the scenario follow each
other, the session knows all that the program at hand has told while its scenario goes on. So every post is
taken in, and after a reset the view shows nothing but what was posted by runs since then. -/

namespace TraceGraph

open Simulator Service

/-- Whether a batch announces a thing. -/
def Batch.Announces (b : Batch) : EntityRef → Prop
  | ⟨.activity, id⟩ => ∃ a ∈ b.activities, a.id = id
  | ⟨.passiveEntity, id⟩ => ∃ e ∈ b.passiveEntities, e.id = id
  | ⟨.dynamicScope, _⟩ => False

/-- A run begins with the meta-model and, if it has any rounds, with a batch whose main activity is new. -/
def Begins (apiUrl : String) (rounds : Int) (run : Nat) (old ds : List Delivery) : Prop :=
  ∃ d rest, ds = d :: rest ∧ d.run = run ∧ d.exchange.1 = introduction apiUrl ∧ d.exchange.Succeeded ∧
    (0 < rounds → ∃ d' rest', rest = d' :: rest' ∧ d'.run = run ∧ ∃ b, d'.exchange.Carries apiUrl b ∧
      ∃ main ∈ b.activities, main.name = "Main" ∧ main.creator = none ∧
        ∀ x ∈ old, ∀ b', x.exchange.Carries apiUrl b' → main.id ∉ b'.ids)

/-- The service has a simulator whose posts reach it. The session holds the batches `kept`, and if the
scenario sleeps then all that the program at hand has told is among them. -/
structure InStep (apiUrl : String) (rounds : Int) (s : Service) (sim : Simulator)
    (earlier : List (List Batch)) (current kept : List Batch) : Prop where
  simulator : s.simulator = some sim
  delivers : Delivers apiUrl
  url : sim.apiUrl = apiUrl
  rounds : sim.rounds = rounds
  after : sim.program.After earlier current
  holds : s.session.Holds (Program.historyOf kept)
  client : sim.isRunning → sim.hasClient
  going : sim.isRunning → sim.going
  ready : sim.scenario = .ready → current = []
  asleep : ∀ n, sim.scenario = .asleep n →
    s.session.metaModel? = some Program.metaModel ∧ current ⊆ kept

namespace InStep

variable {apiUrl : String} {rounds : Int} {s : Service} {sim : Simulator} {earlier : List (List Batch)}
  {current kept : List Batch}

theorem streaming_of_asleep (h : InStep apiUrl rounds s sim earlier current kept) {n : Nat}
    (hn : sim.scenario = .asleep n) : Streaming (s.origin sim) earlier current kept := by
  have hrunning : sim.isRunning := isRunning_of_asleep hn
  obtain ⟨hmodel, hheld⟩ := h.asleep n hn
  exact ⟨h.url ▸ h.delivers, h.client hrunning, h.after, h.holds, hmodel, hheld⟩

/-- The service stays in step through a turn in which a streaming scenario posts some batches. -/
theorem of_streamed (h : InStep apiUrl rounds s sim earlier current kept) {p : Progress (Session × List Exchange)}
    {t : Turn} {bs : List Batch} (hsim : p.simulator = sim)
    (hp : Streamed p (s.progress sim t) earlier current kept bs) (hgoing : sim.going) :
    InStep apiUrl rounds ((Event.turn t).run s) (s.progress sim t).simulator earlier (current ++ bs)
      (kept ++ bs) := by
  have hstreaming := hp.streaming
  have hframe := hp.frame
  rw [hsim] at hframe
  rw [run_turn h.simulator t]
  refine ⟨rfl, h.delivers, ?_, ?_, hstreaming.after, hstreaming.holds, fun _ => hstreaming.client, ?_, ?_, ?_⟩
  · rw [hframe]
    exact h.url
  · rw [hframe]
    exact h.rounds
  · intro _
    rw [hframe]
    exact hgoing
  · exact fun hready => absurd hready hp.notReady
  · exact fun n _ => ⟨hstreaming.metaModel, hstreaming.held⟩

/-- In its first turn a scenario introduces itself and, if there are rounds to run, posts a batch. -/
theorem begin (h : InStep apiUrl rounds s sim earlier current kept) (hready : sim.scenario = .ready)
    (t : Turn) :
    ∃ q x xs bs, q.simulator = sim ∧ Streamed q (s.progress sim t) earlier [] kept bs ∧
      (s.progress sim t).world.2 = x :: xs ∧ x.1 = introduction apiUrl ∧ x.Succeeded ∧
      List.Forall₂ (Exchange.Carries apiUrl) xs bs ∧
      (0 < rounds → ∃ rest, bs = sim.program.batch :: rest) := by
  have hrunning : sim.isRunning := isRunning_of_ready hready
  have hafter : sim.program.After earlier [] := h.ready hready ▸ h.after
  obtain ⟨q, x, hpost, hsim, hrecord, hx, hsucceeded, hq⟩ :=
    post_introduction (p := s.origin sim) (h.url ▸ h.delivers) (h.client hrunning) hafter h.holds
  have hsim : q.simulator = sim := hsim
  obtain ⟨bs, hbs, hfirst⟩ := hq.runRounds q.simulator.rounds.toNat
  have hprogress : s.progress sim t = Simulator.runRounds (recorded respond) q.simulator.rounds.toNat q := by
    have hbegin : Simulator.begin (recorded respond) (s.origin sim) =
        Simulator.runRounds (recorded respond) q.simulator.rounds.toNat q := by
      rw [Simulator.begin, hpost]
    rw [progress_eq, hready]
    exact hbegin
  rw [← hprogress] at hbs
  obtain ⟨xs, hxs, hcarries⟩ := hbs.record
  have hurl : q.simulator.apiUrl = apiUrl := by rw [hsim, h.url]
  refine ⟨q, x, xs, bs, hsim, hbs, ?_, h.url ▸ hx, hsucceeded, hurl ▸ hcarries, ?_⟩
  · rw [hxs, hrecord]
    rfl
  · intro hrounds
    rw [hsim, h.rounds] at hfirst
    exact hfirst (h.going hrunning) (by omega)

theorem runs_eq (h : InStep apiUrl rounds s sim earlier current kept) : s.runs = sim.clientsCreated := by
  rw [runs, h.simulator, Option.map_some, Option.getD_some]

theorem simRunning_eq (h : InStep apiUrl rounds s sim earlier current kept) :
    s.simRunning = sim.isRunning := by
  rw [simRunning, h.simulator, Option.any_some]

theorem nextRun_eq (h : InStep apiUrl rounds s sim earlier current kept) :
    s.nextRun = if sim.isRunning then sim.clientsCreated else sim.clientsCreated + 1 := by
  rw [nextRun, h.simRunning_eq, h.runs_eq]

theorem le_nextRun (h : InStep apiUrl rounds s sim earlier current kept) : sim.clientsCreated ≤ s.nextRun := by
  rw [h.nextRun_eq]
  split <;> omega

/-- A turn in which a running simulator posts some batches. -/
theorem proceeds_of_reports (h : InStep apiUrl rounds s sim earlier current kept) (hrunning : sim.isRunning)
    {t : Turn} {sim' : Simulator} {bs : List Batch}
    (h' : InStep apiUrl rounds ((Event.turn t).run s) sim' earlier (current ++ bs) (kept ++ bs))
    (hclients : sim'.clientsCreated = sim.clientsCreated) (hreports : Reports apiUrl (s.deliveries t) bs) :
    Proceeds apiUrl s ((Event.turn t).run s) (s.deliveries t) (earlier ++ [current])
      (earlier ++ [current ++ bs]) kept (kept ++ bs) := by
  have hnext : s.nextRun = sim.clientsCreated := by rw [h.nextRun_eq, if_pos hrunning]
  refine ⟨⟨bs, ?_, fun _ hb => hb, hreports⟩, ?_, ?_⟩
  · simp only [List.flatten_append, List.flatten_singleton, List.append_assoc]
  · rw [hnext, ← hclients]
    exact h'.le_nextRun
  · intro d hd
    rw [deliveries_eq h.simulator] at hd
    obtain ⟨x, -, rfl⟩ := List.mem_map.1 hd
    exact hnext.le

/-- A turn that the scenario does not have. -/
theorem turn_of_still (h : InStep apiUrl rounds s sim earlier current kept) {t : Turn}
    (ht : s.progress sim t = s.origin sim) :
    InStep apiUrl rounds ((Event.turn t).run s) sim earlier current kept ∧
      Proceeds apiUrl s ((Event.turn t).run s) (s.deliveries t) (earlier ++ [current]) (earlier ++ [current])
        kept kept := by
  have hstep : InStep apiUrl rounds ((Event.turn t).run s) sim earlier current kept := by
    rw [run_turn h.simulator, ht]
    exact ⟨rfl, h.delivers, h.url, h.rounds, h.after, h.holds, h.client, h.going, h.ready, h.asleep⟩
  have hnone : s.deliveries t = [] := by
    rw [deliveries_eq h.simulator, ht]
    rfl
  refine ⟨hstep, ?_⟩
  rw [hnone]
  exact .of_control rfl (List.Subset.refl kept) (by rw [h.nextRun_eq, hstep.nextRun_eq])

/-- The service stays in step through a turn. -/
theorem turn (h : InStep apiUrl rounds s sim earlier current kept) (t : Turn) :
    ∃ sim' current' kept', InStep apiUrl rounds ((Event.turn t).run s) sim' earlier current' kept' ∧
      Proceeds apiUrl s ((Event.turn t).run s) (s.deliveries t) (earlier ++ [current]) (earlier ++ [current'])
        kept kept' := by
  have hrun := s.progress_eq sim t
  cases hs : sim.scenario with
  | ready =>
    obtain ⟨q, x, xs, bs, hsim, hbs, hrecord, hx, hsucceeded, hcarries, -⟩ := h.begin hs t
    have hrunning : sim.isRunning := isRunning_of_ready hs
    obtain rfl := h.ready hs
    have h' := h.of_streamed hsim hbs (h.going hrunning)
    refine ⟨_, _, _, h', h.proceeds_of_reports hrunning h' ?_ ?_⟩
    · rw [hbs.frame, hsim]
    · have hintroduction : Reports apiUrl [⟨sim.clientsCreated, x⟩] [] :=
        ⟨List.forall_mem_singleton.2 (.inl ⟨hx, hsucceeded⟩), List.forall_mem_nil _⟩
      rw [deliveries_eq h.simulator, hrecord]
      exact hintroduction.append (reports_of_carries hcarries _)
  | asleep n =>
    rw [hs] at hrun
    cases t with
    | settle => exact ⟨sim, current, kept, h.turn_of_still hrun⟩
    | tick =>
      have hrunning : sim.isRunning := isRunning_of_asleep hs
      have hrun : s.progress sim .tick = Simulator.runRounds (recorded respond) n (s.origin sim) := hrun
      obtain ⟨bs, hbs, -⟩ := (h.streaming_of_asleep hs).runRounds n
      rw [← hrun] at hbs
      obtain ⟨xs, hxs, hcarries⟩ := hbs.record
      have hurl : (s.origin sim).simulator.apiUrl = apiUrl := h.url
      rw [hurl] at hcarries
      have h' := h.of_streamed rfl hbs (h.going hrunning)
      refine ⟨_, _, _, h', h.proceeds_of_reports hrunning h' ?_ ?_⟩
      · rw [hbs.frame]
        rfl
      · rw [deliveries_eq h.simulator, hxs]
        exact reports_of_carries hcarries _
  | idle | finished =>
    rw [hs] at hrun
    exact ⟨sim, current, kept, h.turn_of_still hrun⟩

/-! ### Control -/

/-- A start begins a new run if none is under way. -/
theorem start (h : InStep apiUrl rounds s sim earlier current kept) (hnot : sim.isRunning = false) :
    InStep apiUrl rounds { s with simulator := some sim.start } sim.start (earlier ++ [current]) [] kept ∧
      Proceeds apiUrl s { s with simulator := some sim.start } [] (earlier ++ [current])
        (earlier ++ [current] ++ [[]]) kept kept := by
  have hstarted : InStep apiUrl rounds { s with simulator := some sim.start } sim.start (earlier ++ [current]) []
      kept := by
    obtain ⟨n, hn⟩ := start_eq hnot
    rw [hn]
    exact ⟨rfl, h.delivers, h.url, h.rounds, h.after.restart, h.holds, fun _ => rfl, fun _ => rfl, fun _ => rfl,
      fun _ => Scenario.noConfusion⟩
  refine ⟨hstarted, .of_control ?_ (List.Subset.refl kept) ?_⟩
  · simp only [List.flatten_append, List.flatten_singleton, List.append_nil]
  · have hclients : sim.start.clientsCreated = sim.clientsCreated + 1 := by
      obtain ⟨n, hn⟩ := start_eq hnot
      rw [hn]
    rw [h.nextRun_eq, if_neg (by simp [hnot]), ← hclients]
    exact hstarted.le_nextRun

theorem stop (h : InStep apiUrl rounds s sim earlier current kept) :
    InStep apiUrl rounds { s with simulator := some sim.stop } sim.stop earlier current kept ∧
      Proceeds apiUrl s { s with simulator := some sim.stop } [] (earlier ++ [current]) (earlier ++ [current])
        kept kept := by
  have hnot : ¬ sim.stop.isRunning := by simp [sim.isRunning_stop]
  -- A stopped scenario has no turn to come, so nothing is asked of what the session holds.
  have hready : sim.stop.scenario ≠ .ready := fun h => hnot (isRunning_of_ready h)
  have hasleep (n : Nat) : sim.stop.scenario ≠ .asleep n := fun h => hnot (isRunning_of_asleep h)
  obtain ⟨n, hn⟩ := sim.stop_eq
  have hstopped : InStep apiUrl rounds { s with simulator := some sim.stop } sim.stop earlier current kept := by
    refine ⟨rfl, h.delivers, ?_, ?_, ?_, h.holds, fun hr => absurd hr hnot, fun hr => absurd hr hnot,
      fun hr => absurd hr hready, fun n hn => absurd hn (hasleep n)⟩
    · rw [hn]
      exact h.url
    · rw [hn]
      exact h.rounds
    · rw [hn]
      exact h.after
  have hclients : sim.stop.clientsCreated = sim.clientsCreated := by rw [hn]
  refine ⟨hstopped, .of_control rfl (List.Subset.refl kept) ?_⟩
  rw [h.nextRun_eq, hstopped.nextRun_eq, if_neg hnot, hclients]
  split <;> omega

/-- Discarding the trace data while the simulator does not run. -/
theorem clear (h : InStep apiUrl rounds s sim earlier current kept) (hnot : sim.isRunning = false) :
    InStep apiUrl rounds { s with session := s.session.reset.session } sim earlier current [] ∧
      Proceeds apiUrl s { s with session := s.session.reset.session } [] (earlier ++ [current])
        (earlier ++ [current]) kept [] := by
  have hasleep (n : Nat) : sim.scenario ≠ .asleep n := by
    intro hn
    rw [isRunning_of_asleep hn] at hnot
    cases hnot
  have hcleared : InStep apiUrl rounds { s with session := s.session.reset.session } sim earlier current [] :=
    ⟨h.simulator, h.delivers, h.url, h.rounds, h.after, h.holds.step .reset, h.client, h.going, h.ready,
      fun n hn => absurd hn (hasleep n)⟩
  exact ⟨hcleared, .of_control rfl (List.nil_subset kept) (by rw [h.nextRun_eq, hcleared.nextRun_eq])⟩

/-- A reset discards all trace data, and a simulator that runs begins a new run. -/
theorem reset (h : InStep apiUrl rounds s sim earlier current kept) :
    ∃ sim' earlier' current', InStep apiUrl rounds s.resetSession sim' earlier' current' [] ∧
      Proceeds apiUrl s s.resetSession [] (earlier ++ [current]) (earlier' ++ [current']) kept [] ∧
      (sim.isRunning = false → sim' = sim) ∧
      (sim.isRunning → sim'.scenario = .ready ∧ sim'.clientsCreated = sim.clientsCreated + 1) := by
  by_cases hrunning : sim.isRunning
  · have hreset : s.resetSession =
        { s with session := s.session.reset.session, simulator := some sim.stop.start } := by
      rw [resetSession, h.simRunning_eq, if_pos hrunning, h.simulator, Option.map_some]
    have hnot : sim.stop.isRunning = false := sim.isRunning_stop
    -- The trace data goes while nothing runs, between the stop and the start.
    obtain ⟨hstopped, hstop⟩ := h.stop
    obtain ⟨hcleared, hclear⟩ := hstopped.clear hnot
    obtain ⟨hstarted, hstart⟩ := hcleared.start hnot
    rw [hreset]
    refine ⟨_, _, _, hstarted, (hstop.trans hclear).trans hstart, fun hn => absurd hrunning (by simp [hn]), ?_⟩
    obtain ⟨n, hn⟩ := start_eq hnot
    obtain ⟨m, hm⟩ := sim.stop_eq
    intro _
    rw [hn, hm]
    exact ⟨rfl, rfl⟩
  · have hreset : s.resetSession = { s with session := s.session.reset.session } := by
      rw [resetSession, h.simRunning_eq, if_neg hrunning]
    obtain ⟨hcleared, hclear⟩ := h.clear (Bool.eq_false_iff.2 hrunning)
    rw [hreset]
    exact ⟨_, _, _, hcleared, hclear, fun _ => rfl, fun hr => absurd hr hrunning⟩

/-- The service stays in step through a control request. -/
theorem control (h : InStep apiUrl rounds s sim earlier current kept) (c : Control) :
    ∃ sim' earlier' current' kept', InStep apiUrl rounds (c.apply s) sim' earlier' current' kept' ∧
      Proceeds apiUrl s (c.apply s) [] (earlier ++ [current]) (earlier' ++ [current']) kept kept' := by
  cases c with
  | reset =>
    obtain ⟨sim', earlier', current', hreset, hproceeds, -⟩ := h.reset
    exact ⟨sim', earlier', current', [], hreset, hproceeds⟩
  | start =>
    have hstart : Control.start.apply s = { s with simulator := some sim.start } := by
      rw [Control.apply, h.simulator, Option.map_some]
    rw [hstart]
    by_cases hrunning : sim.isRunning
    · have hsame : { s with simulator := some sim.start } = s := by
        rw [start_of_running hrunning, ← h.simulator]
      rw [hsame]
      exact ⟨sim, earlier, current, kept, h, .of_control rfl (List.Subset.refl kept) le_rfl⟩
    · exact ⟨_, _, _, _, h.start (Bool.eq_false_iff.2 hrunning)⟩
  | stop =>
    have hstop : Control.stop.apply s = { s with simulator := some sim.stop } := by
      rw [Control.apply, h.simulator, Option.map_some]
    rw [hstop]
    exact ⟨_, _, _, _, h.stop⟩

/-! ### Events -/

/-- The service stays in step, whatever happens next. -/
theorem step (h : InStep apiUrl rounds s sim earlier current kept) (e : Event) :
    ∃ sim' earlier' current' kept', InStep apiUrl rounds (e.run s) sim' earlier' current' kept' ∧
      Proceeds apiUrl s (e.run s) (e.deliveries s) (earlier ++ [current]) (earlier' ++ [current']) kept kept' := by
  cases e with
  | control c body headers =>
    have hrun : (Event.control c body headers).run s = c.apply s := (handle_control h.simulator c body headers).1
    rw [hrun]
    exact h.control c
  | turn t =>
    obtain ⟨sim', current', kept', hturn⟩ := h.turn t
    exact ⟨sim', earlier, current', kept', hturn⟩

theorem run (h : InStep apiUrl rounds s sim earlier current kept) (events : List Event) :
    ∃ sim' earlier' current' kept', InStep apiUrl rounds (Event.runAll events s) sim' earlier' current' kept' ∧
      Proceeds apiUrl s (Event.runAll events s) (Event.transcript events s) (earlier ++ [current])
        (earlier' ++ [current']) kept kept' := by
  induction events generalizing s sim earlier current kept with
  | nil => exact ⟨sim, earlier, current, kept, h, .of_control rfl (List.Subset.refl kept) le_rfl⟩
  | cons e events ih =>
    obtain ⟨sim', earlier', current', kept', hstep, hproceeds⟩ := h.step e
    obtain ⟨sim'', earlier'', current'', kept'', hrun, hrest⟩ := ih hstep
    exact ⟨sim'', earlier'', current'', kept'', hrun, hproceeds.trans hrest⟩

/-! ### Resets -/

/-- All that the view shows is announced by batches that the session holds. -/
theorem announced (h : InStep apiUrl rounds s sim earlier current kept) {v : View}
    (hv : s.session.view = some v) {e : EntityRef} (he : v.Has e) : ∃ b ∈ kept, b.Announces e := by
  have hknows : (Program.historyOf kept).Knows e := (h.holds.view hv).has_iff.1 he
  obtain ⟨kind, id⟩ := e
  cases kind with
  | activity =>
    obtain ⟨a, ha, hid⟩ := Announcements.mem_ids.1 hknows
    rw [Program.activities_historyOf] at ha
    obtain ⟨b, hb, hmem⟩ := List.mem_flatMap.1 ha
    exact ⟨b, hb, a, hmem, hid⟩
  | passiveEntity =>
    obtain ⟨a, ha, hid⟩ := Announcements.mem_ids.1 hknows
    rw [Program.passives_historyOf] at ha
    obtain ⟨b, hb, hmem⟩ := List.mem_flatMap.1 ha
    exact ⟨b, hb, a, hmem, hid⟩
  | dynamicScope => exact he.elim

/-- After a reset the view shows only what runs have posted that began with it or later. -/
theorem announced_since_reset (h : InStep apiUrl rounds s sim earlier current kept) (events : List Event)
    {v : View} (hv : (Event.runAll events s.resetSession).session.view = some v) {e : EntityRef}
    (he : v.Has e) :
    ∃ d ∈ Event.transcript events s.resetSession, s.runs < d.run ∧
      ∃ b, d.exchange.Carries apiUrl b ∧ b.Announces e := by
  obtain ⟨sim', earlier', current', hreset, -, hidle, hbegun⟩ := h.reset
  have hnext : s.runs < s.resetSession.nextRun := by
    rw [h.runs_eq, hreset.nextRun_eq]
    by_cases hrunning : sim.isRunning
    · rw [(hbegun hrunning).2]
      split <;> omega
    · rw [hidle (Bool.eq_false_iff.2 hrunning), if_neg hrunning]
      omega
  obtain ⟨sim'', earlier'', current'', kept'', hrun, hproceeds⟩ := hreset.run events
  obtain ⟨bs, -, hkept, hreports⟩ := hproceeds.batches
  obtain ⟨b, hb, hannounces⟩ := hrun.announced hv he
  obtain ⟨d, hd, hcarries⟩ := hreports.told b (hkept hb)
  exact ⟨d, hd, hnext.trans_le (hproceeds.runs d hd), b, hcarries, hannounces⟩

/-- A run that has not had its first turn begins with it. Its main activity is in no batch from before. -/
theorem begins (h : InStep apiUrl rounds s sim earlier current kept) (hready : sim.scenario = .ready)
    (t : Turn) {old : List Delivery} {told : List Batch} (hold : Reports apiUrl old told)
    (htold : (earlier ++ [current]).flatten = told) :
    Begins apiUrl rounds s.runs old (s.deliveries t) := by
  obtain ⟨q, x, xs, bs, -, -, hrecord, hx, hsucceeded, hcarries, hfirst⟩ := h.begin hready t
  rw [deliveries_eq h.simulator, hrecord, h.runs_eq]
  refine ⟨_, _, rfl, rfl, hx, hsucceeded, ?_⟩
  intro hrounds
  obtain ⟨rest, rfl⟩ := hfirst hrounds
  obtain rfl := h.ready hready
  cases hcarries with
  | @cons y _ ys _ hy _ =>
    obtain ⟨main, hmain⟩ : ∃ main, Batch.Tells main [sim.program.batch] :=
      h.after.next.regular_current.tells.resolve_left (List.cons_ne_nil _ _)
    obtain ⟨b, bs, hb, hmem⟩ := hmain.first
    obtain ⟨rfl, rfl⟩ := List.cons.inj hb
    refine ⟨_, _, rfl, rfl, _, hy, main, hmem, hmain.name, hmain.uncreated, ?_⟩
    intro d hd b' hb' hid
    -- What was posted before carries batches that were told, and no id is told twice.
    have hnodup := h.after.next.nodup_ids
    rw [Program.After.idsOf_next, List.nodup_append] at hnodup
    have hnew : main.id ∈ sim.program.batch.ids := List.mem_append_left _ (List.mem_map_of_mem hmem)
    have htold' : b' ∈ told := hold.mem_of_carries hd hb'
    rw [← htold] at htold'
    exact hnodup.2.2 main.id (List.mem_flatMap.2 ⟨b', htold', hid⟩) main.id hnew rfl

end InStep

/-! ### The service under control -/

namespace Service

theorem inStep_new {apiUrl : String} (hurl : Delivers apiUrl) {session : Session} (hsession : session.Holds [])
    (rounds : Int) (interval : Number) (picks : List Int) :
    InStep apiUrl rounds (.new session (some (.new apiUrl rounds interval picks)))
      (.new apiUrl rounds interval picks) [] [] [] where
  simulator := rfl
  delivers := hurl
  url := rfl
  rounds := rfl
  after := .new picks
  holds := hsession
  client := nofun
  going := nofun
  ready := nofun
  asleep := nofun

/-- A service has a simulator and at first no trace data. However control requests and turns of the scenario
follow each other then, every post of the simulator is answered 200, and every control request is answered
200 and tells whether the simulator runs; it does after a start, and after a reset while it ran. A reset
keeps the meta-model. A simulator that ran is then in a new run, which posts the meta-model and a new main
activity first. And all that the view shows later was announced by runs that began with the reset or after
it. -/
theorem simulator_in_step {apiUrl : String} (hurl : Delivers apiUrl) {path : Option String}
    {ops : List Session.Op} (hops : Session.history path ops = []) (rounds : Int) (interval : Number)
    (picks : List Int) (before : List Event) :
    let start := Service.new (Session.run ops (.new path)) (some (.new apiUrl rounds interval picks))
    let posted := Event.transcript before start
    let s := Event.runAll before start
    (∀ d ∈ posted, d.exchange.1 = introduction apiUrl ∧ d.exchange.Succeeded ∨
      ∃ b, d.exchange.Carries apiUrl b) ∧
    (∀ c body headers, let r := s.handle (.post (Control.path c) body headers)
      (r.1.simRunning ↔ c = .start ∨ c = .reset ∧ s.simRunning) ∧ r.2.status = 200 ∧
      r.2.content = .json (.object [("status", .text "ok"), ("sim_running", .bool r.1.simRunning)])) ∧
    ∀ body headers, let s' := (Event.control .reset body headers).run s
      s'.session.metaModel? = s.session.metaModel? ∧ s'.simRunning = s.simRunning ∧
      (s.simRunning → s'.runs = s.runs + 1 ∧ ∀ t, Begins apiUrl rounds s'.runs posted (s'.deliveries t)) ∧
      ∀ after v, (Event.runAll after s').session.view = some v → ∀ e, v.Has e →
        ∃ d ∈ Event.transcript after s', s.runs < d.run ∧
          ∃ b, d.exchange.Carries apiUrl b ∧ b.Announces e := by
  have hsession : (Session.run ops (.new path)).Holds [] := hops ▸ Session.holds_run path ops
  intro start posted s
  obtain ⟨sim, earlier, current, kept, h, hproceeds⟩ :=
    (inStep_new hurl hsession rounds interval picks).run before
  have h : InStep apiUrl rounds s sim earlier current kept := h
  obtain ⟨bs, hprograms, -, hreports⟩ := hproceeds.batches
  have hreports : Reports apiUrl posted bs := hreports
  refine ⟨?_, ?_, ?_⟩
  · intro d hd
    exact (hreports.posts d hd).imp_right (Exists.imp fun _ => And.right)
  · intro c body headers
    obtain ⟨hstate, hresponse⟩ := handle_control h.simulator c body headers
    exact ⟨by rw [hstate, simRunning_apply h.simulator], hresponse⟩
  · intro body headers s'
    have hs' : s' = s.resetSession := (handle_control h.simulator .reset body headers).1
    obtain ⟨sim', earlier', current', hreset, hproceeds', hidle, hbegun⟩ := h.reset
    obtain ⟨cs, hprograms', -, hnone⟩ := hproceeds'.batches
    obtain rfl := hnone.eq_nil
    rw [hs']
    refine ⟨?_, ?_, ?_, fun after v hv e he => h.announced_since_reset after hv he⟩
    · rw [session_resetSession, Session.metaModel?_reset]
    · rw [hreset.simRunning_eq, h.simRunning_eq]
      by_cases hrunning : sim.isRunning
      · rw [hrunning, isRunning_of_ready (hbegun hrunning).1]
      · rw [hidle (Bool.eq_false_iff.2 hrunning)]
    · intro hrunning
      rw [h.simRunning_eq] at hrunning
      obtain ⟨hready, hclients⟩ := hbegun hrunning
      refine ⟨by rw [hreset.runs_eq, h.runs_eq, hclients], ?_⟩
      intro t
      refine hreset.begins hready t hreports ?_
      rw [hprograms', hprograms]
      simp

theorem delivers_localhost : Delivers "http://localhost:8000" := by
  have hread : ∀ x ∈ simulatorPaths, (Url.read? ("http://localhost:8000" ++ x.1)).any fun url =>
      url.isAbsolute ∧ Route.ofPath? (decodePath url.fromRoot) = some x.2 := by
    decide +kernel
  intro x hx
  obtain ⟨url, hurl, h⟩ := (Option.any_eq_true _ _).1 (hread x hx)
  obtain ⟨habsolute, hroute⟩ := of_decide_eq_true h
  exact ⟨url, hurl, habsolute, by rw [destination, hroute]⟩

/-- A simulator is stopped after the first batch of its first run, and a reset comes after the first batch of
its second. -/
theorem simulator_in_step_thirdRun :
    let apiUrl := "http://localhost:8000"
    let ops : List Session.Op := [.install ⟨Table.empty, Table.empty⟩, .reset]
    let start := Service.new (Session.run ops (.new none)) (some (.new apiUrl 2 (.whole 1) [7, 4]))
    let before : List Event := [.control .start none [], .turn .settle, .control .stop none [],
      .control .start none [], .turn .tick]
    let s := Event.runAll before start
    let s' := (Event.control .reset none [("Origin", "null")]).run s
    Delivers apiUrl ∧ Session.history none ops = [] ∧ (Event.transcript before start).length = 4 ∧
      s'.simRunning = true ∧ s'.runs = 3 ∧
      Begins apiUrl 2 3 (Event.transcript before start) (s'.deliveries .tick) ∧
      ∀ v, (Event.runAll [.turn .tick, .turn .tick] s').session.view = some v → ∀ e, v.Has e →
        ∃ d ∈ Event.transcript [.turn .tick, .turn .tick] s', 2 < d.run ∧
          ∃ b, d.exchange.Carries apiUrl b ∧ b.Announces e := by
  intro apiUrl ops start before s s'
  have hops : Session.history none ops = [] := rfl
  have hlength : (Event.transcript before start).length = 4 := by decide +kernel
  obtain ⟨hrunning, hruns⟩ : s.simRunning = true ∧ s.runs = 2 := by decide +kernel
  obtain ⟨-, -, hreset⟩ := simulator_in_step delivers_localhost hops 2 (.whole 1) [7, 4] before
  obtain ⟨-, hsame, hnew, hshown⟩ := hreset none [("Origin", "null")]
  obtain ⟨hthird, hbegins⟩ := hnew hrunning
  have hthird : s'.runs = 3 := by rw [hthird, hruns]
  refine ⟨delivers_localhost, hops, hlength, hsame.trans hrunning, hthird, hthird ▸ hbegins .tick, ?_⟩
  intro v hv e he
  exact hruns ▸ hshown _ v hv e he

end Service

end TraceGraph
