import TraceGraph.Proofs.MessageLinks
import TraceGraph.Proofs.Snapshot

/-! Creation links are the creators of the tables seen through the visible nodes. Each thing with a
creator is counted once, for the node that represents its creator and the node that represents itself,
whatever kinds these are and whether they are groups or the same node. Counting creations is a matter of
its own: message counts and their maxima are as if there were no creations. -/

namespace TraceGraph

open Announcements

namespace History

variable {past : History}

/-- Folding onto nodes keeps the number of creations. -/
theorem sumOver_creationLinks (past : History) (P : NodeRef → NodeRef → Bool) :
    past.creationLinks.sumOver P =
      past.creations.countP fun e => P (past.nodeOf e.1) (past.nodeOf e.2) := by
  rw [creationLinks, Tally.sumOver_run, Tally.sumOver_empty, Int.zero_add, Tally.weight_map,
    Tally.weight_ones]

theorem filter_creations (past : History) (P : NodeRef → NodeRef → Bool) :
    past.links.filter (fun l => l.creation = true ∧ P l.source l.target) =
      (past.creationLinks.increments.filter fun i => P i.source i.target).map
        fun i => ⟨i.source, i.target, i.amount, true⟩ := by
  rw [links, List.filter_append, filter_linksOf, filter_linksOf, if_neg (by decide), if_pos rfl,
    List.nil_append]

end History

namespace View

variable {v : View} {past : History}

/-- Whether one node represents the creator of a thing and another node the thing itself. -/
def isCreated {α : Type} [Traced α] (v : View) (creator created : NodeRef) (e : Int × Placed α) : Bool :=
  match Traced.creator? e.2.item with
  | some id => (v.visible ⟨.activity, id⟩).toOption = some creator ∧
      (v.visible ⟨Traced.kind α, e.1⟩).toOption = some created
  | none => false

/-- How many things of both tables are represented by one node while another represents their creator. -/
def created (v : View) (creator created : NodeRef) : Nat :=
  v.activities.table.entries.countP (v.isCreated creator created) +
    v.passives.table.entries.countP (v.isCreated creator created)

theorem created_eq (v : View) (C N : NodeRef) :
    v.created C N = v.creations.countP fun e =>
      (v.visible e.1).toOption = some C ∧ (v.visible e.2).toOption = some N := by
  rw [created, creations, List.countP_append, List.countP_filterMap, List.countP_filterMap]
  congr 1
  apply List.countP_congr
  intro e _
  simp only [isCreated]
  cases Traced.creator? e.2.item <;> simp

theorem length_creations (v : View) :
    v.creations.length = v.activities.table.values.countP (·.item.creator.isSome) +
      v.passives.table.size := by
  rw [creations, List.length_append, List.length_filterMap_eq_countP, List.length_filterMap_eq_countP]
  congr 1
  · rw [Table.values, List.countP_map]
    apply List.countP_congr
    intro e _
    rw [Option.isSome_map]
    rfl
  · rw [Table.size, List.countP_eq_length]
    intro e _
    rfl

/-- Once crowded groups are promoted, what is created is counted on the nodes of the history. -/
theorem Holds.created_settled (h : v.Holds past) (C N : NodeRef) :
    v.settled.created C N = past.creationLinks.count C N := by
  rw [created_eq, h.settled.creations, Tally.count_eq_sumOver, History.sumOver_creationLinks]
  congr 1
  apply List.countP_congr
  intro e he
  obtain ⟨hcreator, hcreated⟩ := h.closed.knows_of_mem_creations he
  rw [h.visible_settled hcreator, h.visible_settled hcreated]
  simp [Except.toOption]

/-- Among the links there is one for each pair of nodes of which one represents a thing and the other its
creator, and it counts these things; together they count every thing with a creator once. The ends are
nodes of the listings. Messages, the most messages between two things and the most on a link are what
they would be without creations. -/
theorem links_count_creations (m : Option MetaModel) (ops : List Op) :
    ∃ v ls log, (run ops (new m)).links = .ok (v, ls, log) ∧
      v.activities.table = (run ops (new m)).activities.table ∧
      v.passives.table = (run ops (new m)).passives.table ∧
      (∀ C N, ls.filter (fun l => l.creation = true ∧ l.source = C ∧ l.target = N) =
        if v.created C N = 0 then [] else [⟨C, N, v.created C N, true⟩]) ∧
      (∃ u w as bs log log', v.listActivities = .ok (u, as, log) ∧ v.listPassives = .ok (w, bs, log') ∧
        ∀ l ∈ ls, l.source ∈ as ++ bs ∧ l.target ∈ as ++ bs) ∧
      ((ls.filter (·.creation)).map Link.messageCount).sum =
        (v.activities.table.values.countP (·.item.creator.isSome) + v.passives.table.size : Nat) ∧
      v.messages = (run ops (new m)).messages ∧
      v.maxSends = (run ops (new m)).maxSends ∧
      v.maxLink = Tally.largest ((ls.filter fun l => l.creation = false).map Link.messageCount) := by
  have h := holds_run m ops
  generalize run ops (new m) = v at h ⊢
  generalize history m ops = past at h
  obtain ⟨log, hlog⟩ := h.links
  have hsettled := h.settledWith past.messageLinks.max
  refine ⟨_, _, log, hlog, rfl, rfl, ?_, ?_, ?_, rfl, rfl, ?_⟩
  · intro C N
    have hfilter := past.filter_creations fun s d => s = C ∧ d = N
    have hcreated : View.created { v.settled with maxLink := past.messageLinks.max } C N =
        past.creationLinks.count C N := h.created_settled C N
    simp only [decide_eq_true_eq] at hfilter
    rw [hfilter, past.creationLinks_positive.filter_increments, ← hcreated]
    by_cases hzero : View.created { v.settled with maxLink := past.messageLinks.max } C N = 0
    · simp [hzero]
    · simp [hzero]
  · obtain ⟨log, hactivities⟩ := hsettled.listActivities
    obtain ⟨log', hpassives⟩ := hsettled.listPassives
    exact ⟨_, _, _, _, log, log', hactivities, hpassives, fun l hl => h.closed.ends_mem_nodes hl⟩
  · have hfilter := past.filter_creations fun _ _ => true
    have hsum := past.sumOver_creationLinks fun _ _ => true
    simp only [and_true, Bool.decide_eq_true] at hfilter
    rw [hfilter, List.map_map, ← length_creations, hsettled.creations]
    rw [Tally.sumOver, Tally.weight, List.countP_true] at hsum
    exact hsum
  · have hfilter := past.filter_links fun _ _ => true
    simp only [and_true, List.filter_true] at hfilter
    rw [hfilter, List.map_map]
    exact congrArg Tally.largest past.messageLinks.map_amount_increments.symm

/-- An activity that names itself and one that names a later activity count like any other. -/
example :
    let batch : Batch := ⟨[⟨1, "main", 0, some 1, true⟩, ⟨2, "worker", 0, some 3, true⟩,
      ⟨3, "worker", 0, none, true⟩], [⟨1, 0, ⟨"a", 1, 2, 3⟩, 3⟩], [], []⟩
    (run [.ingest batch] (new (some ⟨Table.empty, Table.empty⟩))).links.toOption.map (fun r => r.2.1) =
      some [⟨.entity ⟨.activity, 1⟩, .entity ⟨.activity, 1⟩, 1, true⟩,
        ⟨.entity ⟨.activity, 3⟩, .entity ⟨.activity, 2⟩, 1, true⟩,
        ⟨.entity ⟨.activity, 3⟩, .entity ⟨.passiveEntity, 1⟩, 1, true⟩] := by
  decide +kernel

end View

end TraceGraph
