import TraceGraph.Proofs.Counters
import TraceGraph.Proofs.Program
import TraceGraph.Simulator

/-! A simulator whose batches are fed to a view. Whatever it picks, and however often a new program begins
or the view is reset for one, every batch is taken in, and the counters of the view tell how many programs
and batches there were. -/

namespace TraceGraph

/-- The simulator and the view, with the batches of each program so far. -/
structure Feed where
  simulator : Simulator
  view : View
  /-- The programs that the last reset discarded, and all before them. -/
  discarded : List (List Batch)
  /-- The programs since the last reset but for the one at hand. -/
  earlier : List (List Batch)
  /-- The program at hand. -/
  current : List Batch

namespace Feed

/-- Why a batch is not taken in. -/
inductive Refusal
  | malformed (issues : List Issue)
  | sequencing (e : SequencingError)

/-- The programs since the last reset. -/
def kept (f : Feed) : List (List Batch) := f.earlier ++ [f.current]

/-- All programs. -/
def programs (f : Feed) : List (List Batch) := f.discarded ++ f.kept

def new (apiUrl : String) (rounds : Int) (interval : Number) (picks : List Int) : Feed :=
  ⟨.new apiUrl rounds interval picks, .new (some Program.metaModel), [], [], []⟩

/-- Check the next batch as a payload and put it to the view. -/
def feed (f : Feed) : Except Refusal Feed :=
  let (simulator, payload) := f.simulator.nextBatch
  match Payload.batch Payload.byItself payload with
  | .fail issues => .error (.malformed issues)
  | .pass b =>
    let intake := f.view.absorb b
    match intake.answer with
    | .error e => .error (.sequencing e)
    | .ok () => .ok { f with simulator, view := intake.view, current := f.current ++ [b] }

inductive Step
  | batch
  | newProgram
  /-- Reset the view and begin a new program. -/
  | reset

def Step.run (f : Feed) : Step → Except Refusal Feed
  | .batch => f.feed
  | .newProgram => .ok { f with
      simulator := f.simulator.newProgram
      earlier := f.kept
      current := [] }
  | .reset => .ok { f with
      simulator := f.simulator.newProgram
      view := f.view.reset
      discarded := f.programs
      earlier := []
      current := [] }

def run (steps : List Step) (f : Feed) : Except Refusal Feed := steps.foldlM Step.run f

/-- The simulator and the view are in step. -/
structure Sound (f : Feed) : Prop where
  after : f.simulator.program.After (f.discarded ++ f.earlier) f.current
  metaModel : f.view.metaModel = some Program.metaModel
  holds : f.view.Holds (Program.historyOf f.kept.flatten)

variable {f : Feed}

theorem sound_new (apiUrl : String) (rounds : Int) (interval : Number) (picks : List Int) :
    (new apiUrl rounds interval picks).Sound :=
  ⟨.new picks, rfl, View.holds_new _⟩

theorem Sound.feed (h : f.Sound) : ∃ g, f.feed = .ok g ∧ g.Sound := by
  have hheld : f.current ⊆ f.kept.flatten := by
    rw [kept, List.flatten_append, List.flatten_singleton]
    exact List.subset_append_right _ _
  obtain ⟨hok, hmodel, hholds⟩ := h.after.absorb h.metaModel h.holds hheld
  have hnext : f.simulator.nextBatch.1.program = f.simulator.program.next := f.simulator.program.nextBatch_fst
  have hpass : Payload.batch Payload.byItself f.simulator.nextBatch.2 = .pass f.simulator.program.batch :=
    f.simulator.program.batch_nextBatch Payload.byItself
  refine ⟨{ f with
    simulator := f.simulator.nextBatch.1
    view := (f.view.absorb f.simulator.program.batch).view
    current := f.current ++ [f.simulator.program.batch] }, ?_, ?_, hmodel, ?_⟩
  · simp only [Feed.feed, hpass, hok]
  · rw [hnext]
    exact h.after.next
  · have hkept : (f.earlier ++ [f.current ++ [f.simulator.program.batch]]).flatten =
        f.kept.flatten ++ [f.simulator.program.batch] := by
      simp [kept]
    rw [kept, hkept]
    exact hholds

theorem Sound.step (h : f.Sound) (step : Step) : ∃ g, step.run f = .ok g ∧ g.Sound := by
  cases step with
  | batch => exact h.feed
  | newProgram =>
    refine ⟨_, rfl, ?_, h.metaModel, ?_⟩
    · rw [kept, ← List.append_assoc]
      exact h.after.restart
    · have hkept : (f.kept ++ [[]]).flatten = f.kept.flatten := by
        rw [List.flatten_append, List.flatten_singleton, List.append_nil]
      change f.view.Holds (Program.historyOf (f.kept ++ [[]]).flatten)
      rw [hkept]
      exact h.holds
  | reset =>
    refine ⟨_, rfl, ?_, h.metaModel, View.holds_new _⟩
    rw [List.append_nil, programs, kept, ← List.append_assoc]
    exact h.after.restart

theorem Sound.run (h : f.Sound) (steps : List Step) : ∃ g, run steps f = .ok g ∧ g.Sound := by
  induction steps generalizing f with
  | nil => exact ⟨f, rfl, h⟩
  | cons step steps ih =>
    obtain ⟨g, hg, hsound⟩ := h.step step
    obtain ⟨g', hg', hsound'⟩ := ih hsound
    refine ⟨g', ?_, hsound'⟩
    rw [Feed.run, List.foldlM_cons, hg]
    exact hg'

/-! ### The counters -/

/-- How many programs have told something. -/
def begun (programs : List (List Batch)) : Nat := programs.countP fun bs => decide (bs ≠ [])

/-- If each program makes so many entries at its beginning and with each batch, all make as many together. -/
theorem length_flatMap_flatten {β : Type} (entries : Batch → List β) (once each : Nat)
    {programs : List (List Batch)}
    (h : ∀ bs ∈ programs, (bs.flatMap entries).length = each * bs.length + if bs = [] then 0 else once) :
    (programs.flatten.flatMap entries).length = once * begun programs + each * programs.flatten.length := by
  induction programs with
  | nil => rfl
  | cons bs programs ih =>
    rw [List.forall_mem_cons] at h
    have hbegun : begun (bs :: programs) = begun programs + if bs = [] then 0 else 1 := by
      by_cases hbs : bs = [] <;> simp [begun, hbs]
    rw [List.flatten_cons, List.flatMap_append, List.length_append, ih h.2, h.1, hbegun, List.length_append,
      Nat.mul_add, Nat.mul_add]
    by_cases hbs : bs = []
    · rw [if_pos hbs, if_pos hbs]
      omega
    · rw [if_neg hbs, if_neg hbs]
      omega

theorem Sound.stats (h : f.Sound) :
    f.view.stats.activities = begun f.kept + f.kept.flatten.length ∧
      f.view.stats.passiveEntities = f.kept.flatten.length ∧
      f.view.stats.messages = 3 * f.kept.flatten.length := by
  have hall : f.discarded ++ f.earlier ++ [f.current] = f.discarded ++ f.kept := List.append_assoc ..
  have hregular : ∀ bs ∈ f.kept, Program.Regular bs := by
    intro bs hbs
    refine h.after.regular bs ?_
    rw [hall]
    exact List.mem_append_right _ hbs
  have hnodup : (f.kept.flatten.flatMap Batch.ids).Nodup := by
    have h := h.after.nodup_ids
    rw [hall, Program.idsOf, List.flatten_append, List.flatMap_append, List.nodup_append] at h
    exact h.2.1
  refine ⟨?_, ?_, ?_⟩
  · have hlength := length_flatMap_flatten Batch.activities 1 1 fun bs hbs => by
      rw [(hregular bs hbs).activities, Nat.one_mul]
    rw [View.stats, h.holds.activities.table_size, Program.length_ids_activities hnodup, hlength,
      Nat.one_mul, Nat.one_mul]
  · have hlength := length_flatMap_flatten Batch.passiveEntities 0 1 fun bs hbs => by
      rw [(hregular bs hbs).passives, Nat.one_mul, ite_self, Nat.add_zero]
    rw [View.stats, h.holds.passives.table_size, Program.length_ids_passives hnodup, hlength, Nat.zero_mul,
      Nat.zero_add, Nat.one_mul]
  · have hlength := length_flatMap_flatten Batch.operations 0 3 fun bs hbs => by
      rw [(hregular bs hbs).operations, ite_self, Nat.add_zero]
    have hends : (Program.historyOf f.kept.flatten).ends.length =
        (Program.historyOf f.kept.flatten).operations.length := by
      rw [History.ends, List.filterMap_length_eq_length]
      intro x hx
      obtain ⟨ends, hends, -⟩ := h.holds.closed.ends x hx
      rw [hends]
      rfl
    rw [View.stats, h.holds.messages, Tally.total_run_ones, hends, Program.length_operations_historyOf,
      hlength, Nat.zero_mul, Nat.zero_add]
    exact Int.natCast_mul 3 _

/-- A simulator and a view with its meta-model stay in step, whatever is picked and in whichever order
batches are fed, programs begun and the view reset. Every batch is taken in. No id is announced twice. Each
program that announces anything first announces its main activity, which creates all else that it
announces. And the view counts two activities for the first batch of a program since the last reset and one
for every other, and one passive entity and three messages for each. -/
theorem run_accepts_fresh_traces (apiUrl : String) (rounds : Int) (interval : Number) (picks : List Int)
    (steps : List Step) :
    Capabilities.metaModel Program.capabilities = .ok Program.metaModel ∧
    ∃ f, run steps (new apiUrl rounds interval picks) = .ok f ∧
      (f.programs.flatten.flatMap Batch.ids).Nodup ∧
      (∀ bs ∈ f.programs, bs ≠ [] → ∃ main, Batch.Tells main bs) ∧
      f.view.stats.activities = begun f.kept + f.kept.flatten.length ∧
      f.view.stats.passiveEntities = f.kept.flatten.length ∧
      f.view.stats.messages = 3 * f.kept.flatten.length := by
  obtain ⟨f, hrun, hsound⟩ := (sound_new apiUrl rounds interval picks).run steps
  have hall : f.discarded ++ f.earlier ++ [f.current] = f.programs := List.append_assoc ..
  have hnodup := hsound.after.nodup_ids
  have hregular := hsound.after.regular
  rw [hall] at hnodup hregular
  refine ⟨Program.metaModel_capabilities, f, hrun, hnodup, ?_, hsound.stats⟩
  intro bs hbs hne
  exact (hregular bs hbs).tells.resolve_left hne

end Feed

end TraceGraph
