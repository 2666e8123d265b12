import Mathlib.Data.List.Flatten
import TraceGraph.Capabilities
import TraceGraph.Payload
import TraceGraph.Proofs.History
import TraceGraph.Simulator.Program

/-! Programs that are made up. A program tells of itself in batches, and after a restart another one does,
with ids that none before it has used. What it tells is a well-formed trace: its main activity comes first,
creates everything else, and each batch refers only to what was told since the restart. -/

namespace TraceGraph

namespace Batch

/-- The ids that a batch announces, of activities and passive entities alike. -/
def ids (b : Batch) : List Int := b.activities.map Activity.id ++ b.passiveEntities.map PassiveEntity.id

/-- The batches tell of one program from its start on. The first announces its main activity, which nobody
created; whatever else they announce is created by that. -/
structure Tells (main : Activity) (bs : List Batch) : Prop where
  name : main.name = "Main"
  uncreated : main.creator = none
  first : ∃ b rest, bs = b :: rest ∧ main ∈ b.activities
  activities : ∃ others, bs.flatMap activities = main :: others ∧ ∀ a ∈ others, a.creator = some main.id
  channels : ∀ e ∈ bs.flatMap passiveEntities, e.creator = main.id

end Batch

namespace Program

/-! ### The batches -/

/-- The meta-model of the simulated runtime. -/
def metaModel : MetaModel :=
  ⟨Table.ofList [(actorMessage, .activity), (channelSend, .passiveEntity)],
    Table.ofList [(channelReceive, .passiveEntity)]⟩

theorem metaModel_capabilities : Capabilities.metaModel capabilities = .ok metaModel := by rfl

/-- The main activity, which is still to be announced if the program has told nothing. -/
def root (p : Program) : Activity := ⟨p.mainId.getD (p.lastId + 1), "Main", actorType, none, true⟩

/-- What the next batch announces before its worker. -/
def announced (p : Program) : List Activity :=
  match p.mainId with
  | some _ => []
  | none => [p.root]

/-- The last id before those of the next worker and channel. -/
def base (p : Program) : Int :=
  match p.mainId with
  | some _ => p.lastId
  | none => p.lastId + 1

def worker (p : Program) : Activity := ⟨p.base + 1, "Worker", actorType, some p.root.id, true⟩

def channel (p : Program) : PassiveEntity :=
  ⟨p.base + 2, channelType, ⟨"file:///demo/pipeline.ns", 12, 5, 18⟩, p.root.id⟩

/-- The program after its next batch. -/
def next (p : Program) : Program :=
  { picks := p.picks.tail
    lastId := p.channel.id
    mainId := some p.root.id
    workers := p.workers ++ [p.worker.id]
    channels := p.channels ++ [p.channel.id] }

/-- The worker that the next batch is about. -/
def target (p : Program) : Int := { p.next with picks := p.picks }.pick p.worker.id

/-- The next batch. -/
def batch (p : Program) : Batch :=
  { activities := p.announced ++ [p.worker]
    passiveEntities := [p.channel]
    sends := [⟨actorMessage, p.root.id, p.target⟩, ⟨channelSend, p.target, p.channel.id⟩]
    receives := [⟨channelReceive, p.root.id, p.channel.id⟩] }

theorem nextBatch_fst (p : Program) : p.nextBatch.1 = p.next := by
  cases p with
  | mk picks lastId mainId workers channels => cases mainId <;> rfl

/-- What the next batch is written as passes the check as that batch. -/
theorem batch_nextBatch (refusal : Payload.Refusal) (p : Program) :
    Payload.batch refusal p.nextBatch.2 = .pass p.batch := by
  cases p with
  | mk picks lastId mainId workers channels => cases mainId <;> rfl

/-! ### What a program has told -/

/-- A program after earlier ones, each given by its batches, and after batches of its own. -/
inductive After : Program → List (List Batch) → List Batch → Prop
  | new (picks : List Int) : After (.new picks) [] []
  | restart {p earlier current} (h : After p earlier current) :
    After p.restart (earlier ++ [current]) []
  | next {p earlier current} (h : After p earlier current) :
    After p.next earlier (current ++ [p.batch])

/-- The ids of all batches of some programs. -/
def idsOf (programs : List (List Batch)) : List Int := programs.flatten.flatMap Batch.ids

theorem ids_batch (p : Program) :
    p.batch.ids = match p.mainId with
      | some _ => [p.lastId + 1, p.lastId + 2]
      | none => [p.lastId + 1, p.lastId + 1 + 1, p.lastId + 1 + 2] := by
  cases p with
  | mk picks lastId mainId workers channels => cases mainId <;> rfl

theorem lastId_next (p : Program) : p.next.lastId = p.base + 2 := rfl

theorem lastId_le_next (p : Program) : p.lastId ≤ p.next.lastId := by
  rw [lastId_next, base]
  split <;> omega

/-- The ids of the next batch are new. -/
theorem lt_of_mem_ids_batch {p : Program} {id : Int} (h : id ∈ p.batch.ids) :
    p.lastId < id ∧ id ≤ p.next.lastId := by
  rw [ids_batch] at h
  rw [lastId_next, base]
  cases hm : p.mainId with
  | some m =>
    simp only [hm, List.mem_cons, List.not_mem_nil, or_false] at h ⊢
    omega
  | none =>
    simp only [hm, List.mem_cons, List.not_mem_nil, or_false] at h ⊢
    omega

theorem nodup_ids_batch (p : Program) : p.batch.ids.Nodup := by
  rw [ids_batch]
  split <;> simp

namespace After

variable {p : Program} {earlier : List (List Batch)} {current : List Batch}

theorem idsOf_next : idsOf (earlier ++ [current ++ [p.batch]]) = idsOf (earlier ++ [current]) ++ p.batch.ids := by
  simp [idsOf]

theorem idsOf_restart : idsOf (earlier ++ [current] ++ [[]]) = idsOf (earlier ++ [current]) := by
  simp [idsOf]

theorem id_le (h : After p earlier current) : ∀ id ∈ idsOf (earlier ++ [current]), id ≤ p.lastId := by
  induction h with
  | new => exact List.forall_mem_nil _
  | restart _ ih =>
    rw [idsOf_restart]
    exact ih
  | @next p _ _ _ ih =>
    intro id hid
    rw [idsOf_next, List.mem_append] at hid
    rcases hid with hid | hid
    · exact (ih id hid).trans p.lastId_le_next
    · exact (lt_of_mem_ids_batch hid).2

/-- No id is told twice, neither by one program nor by two. -/
theorem nodup_ids (h : After p earlier current) : (idsOf (earlier ++ [current])).Nodup := by
  induction h with
  | new => exact List.nodup_nil
  | restart _ ih =>
    rw [idsOf_restart]
    exact ih
  | @next p _ _ h ih =>
    rw [idsOf_next, List.nodup_append]
    refine ⟨ih, p.nodup_ids_batch, ?_⟩
    rintro id hold _ hnew rfl
    have := h.id_le id hold
    have := (lt_of_mem_ids_batch hnew).1
    omega

end After

/-! ### The program at hand -/

theorem pick_mem {p : Program} (first : Int) (h : p.workers ≠ []) : p.pick first ∈ p.workers := by
  have hpos : 0 < p.workers.length := List.length_pos_iff.2 h
  have hindex : (p.picks.headD 0 % p.workers.length).toNat < p.workers.length := by
    have hlt := Int.emod_lt_of_pos (p.picks.headD 0) (by omega : (0 : Int) < p.workers.length)
    have hnonneg := Int.emod_nonneg (p.picks.headD 0) (by omega : (p.workers.length : Int) ≠ 0)
    omega
  rw [pick, List.getD_eq_getElem?_getD, List.getElem?_eq_getElem hindex, Option.getD_some]
  exact List.getElem_mem hindex

/-- The batch is about a worker from before or about the one that it announces. -/
theorem target_mem (p : Program) : p.target ∈ p.workers ∨ p.target = p.worker.id := by
  have h : p.target ∈ p.workers ++ [p.worker.id] := pick_mem p.worker.id (by simp [next])
  simpa using h

/-- The program has told the batches from its start on, and its main activity and its workers are among
what they announce. -/
structure Underway (p : Program) (main : Activity) (bs : List Batch) : Prop where
  tells : Batch.Tells main bs
  mainId : p.mainId = some main.id
  workers : ∀ w ∈ p.workers, ∃ a ∈ bs.flatMap Batch.activities, a.id = w

theorem underway_first {p : Program} (hmain : p.mainId = none) (hworkers : p.workers = []) :
    p.next.Underway p.root [p.batch] := by
  have hannounced : p.announced = [p.root] := by rw [announced, hmain]
  have hactivities : [p.batch].flatMap Batch.activities = [p.root, p.worker] := by
    simp [batch, hannounced]
  refine ⟨⟨rfl, rfl, ⟨p.batch, [], rfl, ?_⟩, ⟨[p.worker], hactivities, ?_⟩, ?_⟩, rfl, ?_⟩
  · simp [batch, hannounced]
  · simp [worker]
  · simp [batch, channel]
  · intro w hw
    have hw' : w = p.worker.id := by simpa [next, hworkers] using hw
    exact ⟨p.worker, by rw [hactivities]; simp, hw'.symm⟩

theorem Underway.next {p : Program} {main : Activity} {bs : List Batch} (h : p.Underway main bs) :
    p.next.Underway main (bs ++ [p.batch]) := by
  have hannounced : p.announced = [] := by rw [announced, h.mainId]
  have hroot : p.root.id = main.id := by rw [root, h.mainId, Option.getD_some]
  have hactivities : (bs ++ [p.batch]).flatMap Batch.activities = bs.flatMap Batch.activities ++ [p.worker] := by
    simp [batch, hannounced]
  have hpassives : (bs ++ [p.batch]).flatMap Batch.passiveEntities =
      bs.flatMap Batch.passiveEntities ++ [p.channel] := by
    simp [batch]
  obtain ⟨name, uncreated, ⟨b, rest, hfirst, hmem⟩, ⟨others, hothers, hcreated⟩, hchannels⟩ := h.tells
  refine ⟨⟨name, uncreated, ⟨b, rest ++ [p.batch], ?_, hmem⟩, ⟨others ++ [p.worker], ?_, ?_⟩, ?_⟩, ?_, ?_⟩
  · rw [hfirst, List.cons_append]
  · rw [hactivities, hothers, List.cons_append]
  · simp only [List.forall_mem_append, List.forall_mem_singleton]
    exact ⟨hcreated, congrArg some hroot⟩
  · rw [hpassives]
    simp only [List.forall_mem_append, List.forall_mem_singleton]
    exact ⟨hchannels, hroot⟩
  · exact congrArg some hroot
  · intro w hw
    rw [hactivities]
    rcases List.mem_append.1 hw with hw | hw
    · obtain ⟨a, ha, rfl⟩ := h.workers w hw
      exact ⟨a, List.mem_append_left _ ha, rfl⟩
    · obtain rfl := List.mem_singleton.1 hw
      exact ⟨p.worker, List.mem_append_right _ List.mem_cons_self, rfl⟩

/-- What one program tells is the trace of a main activity, with a worker and a channel for each batch. -/
structure Regular (bs : List Batch) : Prop where
  tells : bs = [] ∨ ∃ main, Batch.Tells main bs
  activities : (bs.flatMap Batch.activities).length = bs.length + if bs = [] then 0 else 1
  passives : (bs.flatMap Batch.passiveEntities).length = bs.length
  operations : (bs.flatMap Batch.operations).length = 3 * bs.length

theorem regular_nil : Regular [] := ⟨.inl rfl, rfl, rfl, rfl⟩

namespace After

variable {p : Program} {earlier : List (List Batch)} {current : List Batch}

/-- Either a program has just begun and told nothing, or it has announced its main activity. -/
theorem underway (h : After p earlier current) :
    current = [] ∧ p.mainId = none ∧ p.workers = [] ∨ ∃ main, p.Underway main current := by
  induction h with
  | new | restart => exact .inl ⟨rfl, rfl, rfl⟩
  | next _ ih =>
    rcases ih with ⟨rfl, hmain, hworkers⟩ | ⟨main, hunderway⟩
    · exact .inr ⟨_, underway_first hmain hworkers⟩
    · exact .inr ⟨main, hunderway.next⟩

theorem regular_current (h : After p earlier current) : Regular current := by
  induction h with
  | new | restart => exact regular_nil
  | @next p earlier current h ih =>
    have hne : current ++ [p.batch] ≠ [] := by simp
    have hsize : p.batch.activities.length = 1 + if current = [] then 1 else 0 := by
      rcases h.underway with ⟨rfl, hmain, -⟩ | ⟨main, hmain⟩
      · simp [batch, announced, hmain]
      · obtain ⟨b, rest, rfl, -⟩ := hmain.tells.first
        simp [batch, announced, hmain.mainId]
    refine ⟨.inr ?_, ?_, ?_, ?_⟩
    · rcases h.next.underway with ⟨hnil, -⟩ | ⟨main, hmain⟩
      · exact absurd hnil hne
      · exact ⟨main, hmain.tells⟩
    · rw [List.flatMap_append, List.length_append, ih.activities, if_neg hne, List.length_append]
      simp [hsize]
      split <;> omega
    · rw [List.flatMap_append, List.length_append, ih.passives, List.length_append]
      rfl
    · rw [List.flatMap_append, List.length_append, ih.operations, List.length_append]
      rfl

theorem regular (h : After p earlier current) : ∀ bs ∈ earlier ++ [current], Regular bs := by
  induction h with
  | new => exact List.forall_mem_singleton.2 regular_nil
  | restart h ih => exact List.forall_mem_append.2 ⟨ih, List.forall_mem_singleton.2 regular_nil⟩
  | next h ih =>
    have hearlier := (List.forall_mem_append.1 ih).1
    exact List.forall_mem_append.2 ⟨hearlier, List.forall_mem_singleton.2 h.next.regular_current⟩

end After

/-! ### Batches in a view -/

/-- The history of a view that has taken in some batches by the meta-model of the runtime. -/
def historyOf (bs : List Batch) : History := bs.map fun b => ⟨metaModel, b⟩

theorem historyOf_snoc (bs : List Batch) (b : Batch) :
    historyOf (bs ++ [b]) = historyOf bs ++ [⟨metaModel, b⟩] := List.map_append

theorem activities_historyOf (bs : List Batch) : (historyOf bs).activities = bs.flatMap Batch.activities :=
  List.flatMap_map ..

theorem passives_historyOf (bs : List Batch) : (historyOf bs).passives = bs.flatMap Batch.passiveEntities :=
  List.flatMap_map ..

/-- Where no id is told twice, the batches announce as many ids as they have entries. -/
theorem length_ids {α : Type} [Traced α] {entries : Batch → List α}
    (hentries : ∀ b, ((entries b).map Traced.id).Sublist b.ids) {bs : List Batch}
    (h : (bs.flatMap Batch.ids).Nodup) :
    (Announcements.ids (bs.flatMap entries)).length = (bs.flatMap entries).length := by
  have hsublist : (bs.flatMap fun b => (entries b).map Traced.id).Sublist (bs.flatMap Batch.ids) :=
    List.Sublist.flatMap_right bs fun b _ => hentries b
  have hnodup := hsublist.nodup h
  rw [← List.map_flatMap] at hnodup
  rw [Announcements.ids, Sequence.eraseDups_eq_self hnodup, List.length_map]

theorem length_ids_activities {bs : List Batch} (h : (bs.flatMap Batch.ids).Nodup) :
    (Announcements.ids (historyOf bs).activities).length = (bs.flatMap Batch.activities).length := by
  rw [activities_historyOf]
  exact length_ids (fun _ => List.sublist_append_left _ _) h

theorem length_ids_passives {bs : List Batch} (h : (bs.flatMap Batch.ids).Nodup) :
    (Announcements.ids (historyOf bs).passives).length = (bs.flatMap Batch.passiveEntities).length := by
  rw [passives_historyOf]
  exact length_ids (fun _ => List.sublist_append_right _ _) h

theorem length_operations_historyOf (bs : List Batch) :
    (historyOf bs).operations.length = (bs.flatMap Batch.operations).length := by
  rw [History.operations, historyOf, List.flatMap_map, List.length_flatMap, List.length_flatMap]
  simp only [List.length_map]

theorem references_batch (p : Program) :
    p.batch.references = [.actor p.root.id, .actor p.root.id, .actor p.root.id,
      .target actorMessage p.target, .actor p.target, .target channelSend p.channel.id, .actor p.root.id,
      .source channelReceive p.channel.id] := by
  have hcreators : p.batch.activities.filterMap Activity.creator = [p.root.id] := by
    cases p with
    | mk picks lastId mainId workers channels => cases mainId <;> rfl
  rw [Batch.references, hcreators]
  rfl

/-- A view that knows what the program has told resolves all that the next batch refers to. -/
theorem After.resolves {p : Program} {earlier : List (List Batch)} {current : List Batch}
    (h : After p earlier current) {v : View}
    (hknown : ∀ a ∈ current.flatMap Batch.activities, a.id ∈ v.activities.table.keys) :
    ∀ r ∈ p.batch.references, r.Resolves v metaModel p.batch := by
  have hworker : p.worker ∈ p.batch.activities := by simp [batch]
  have hmain : v.Known p.batch ⟨.activity, p.root.id⟩ := by
    rcases h.underway with ⟨-, hnone, -⟩ | ⟨main, hmain⟩
    · exact .inr ⟨p.root, by simp [batch, announced, hnone], rfl⟩
    · obtain ⟨others, hothers, -⟩ := hmain.tells.activities
      have hroot : p.root.id = main.id := by rw [root, hmain.mainId, Option.getD_some]
      rw [hroot]
      exact .inl (hknown main (by rw [hothers]; exact List.mem_cons_self))
  have htarget : v.Known p.batch ⟨.activity, p.target⟩ := by
    rcases p.target_mem with hold | hnew
    · rcases h.underway with ⟨-, -, hnone⟩ | ⟨main, hmain⟩
      · rw [hnone] at hold
        cases hold
      · obtain ⟨a, ha, hid⟩ := hmain.workers p.target hold
        rw [← hid]
        exact .inl (hknown a ha)
    · rw [hnew]
      exact .inr ⟨p.worker, hworker, rfl⟩
  have hchannel : v.Known p.batch ⟨.passiveEntity, p.channel.id⟩ := .inr ⟨p.channel, List.mem_cons_self, rfl⟩
  rw [references_batch]
  simp only [List.forall_mem_cons]
  exact ⟨hmain, hmain, hmain, ⟨.activity, rfl, htarget⟩, htarget, ⟨.passiveEntity, rfl, hchannel⟩, hmain,
    ⟨.passiveEntity, rfl, hchannel⟩, List.forall_mem_nil _⟩

/-- A view that holds what the program has told takes in the next batch. -/
theorem After.absorb {p : Program} {earlier : List (List Batch)} {current kept : List Batch}
    (h : After p earlier current) {v : View} (hmodel : v.metaModel = some metaModel)
    (hholds : v.Holds (historyOf kept)) (hheld : current ⊆ kept) :
    (v.absorb p.batch).answer = .ok () ∧ (v.absorb p.batch).view.metaModel = some metaModel ∧
      (v.absorb p.batch).view.Holds (historyOf (kept ++ [p.batch])) := by
  have hknown : ∀ a ∈ current.flatMap Batch.activities, a.id ∈ v.activities.table.keys := by
    intro a ha
    obtain ⟨b, hb, hmem⟩ := List.mem_flatMap.1 ha
    rw [hholds.activities.ids, activities_historyOf]
    exact Announcements.mem_ids.2 ⟨a, List.mem_flatMap.2 ⟨b, hheld hb, hmem⟩, rfl⟩
  have hresolves := h.resolves hknown
  obtain ⟨hok, hview⟩ := View.absorb_of_resolves hmodel hresolves
  refine ⟨hok, ?_, ?_⟩
  · rw [hview, View.taken, View.foldl_countMessage_metaModel]
    exact hmodel
  · rw [hview, historyOf_snoc]
    exact hholds.taken hresolves

end Program

end TraceGraph
