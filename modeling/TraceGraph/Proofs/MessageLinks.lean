import TraceGraph.Proofs.Run

/-! Message links are the operations seen through the nodes that stand for their ends. Messages are
counted between single things as batches come, and folded onto nodes only when links are read; the sums
over pairs of nodes are the same as if each operation of the history had been counted on the nodes of the
moment. So there is one link for each pair of nodes with an operation from one to the other, and it
counts these operations. -/

namespace TraceGraph

namespace History

variable {past : History}

/-- Whether an operation's message went from a thing that one node stands for to a thing that another
node stands for. -/
def connects (past : History) (source target : NodeRef) (x : MetaModel × Operation) : Bool :=
  match x.2.ends? x.1 with
  | some ends => past.standIn? ends.1 = some source ∧ past.standIn? ends.2 = some target
  | none => false

/-- How many operations connect one node to another. -/
def traffic (past : History) (source target : NodeRef) : Nat :=
  past.operations.countP (past.connects source target)

/-- Folding onto nodes keeps the sums of the messages that were counted. -/
theorem sumOver_messageLinks (past : History) (P : NodeRef → NodeRef → Bool) :
    past.messageLinks.sumOver P = past.ends.countP fun e => P (past.nodeOf e.1) (past.nodeOf e.2) := by
  have hmessages (Q : EntityRef → EntityRef → Bool) :
      past.messages.sumOver Q = past.ends.countP fun e => Q e.1 e.2 := by
    rw [messages, Tally.sumOver_run, Tally.sumOver_empty, Int.zero_add, Tally.weight_ones]
  rw [messageLinks, Tally.sumOver_run, Tally.sumOver_empty, Int.zero_add, Tally.weight_map]
  exact hmessages fun s d => P (past.nodeOf s) (past.nodeOf d)

theorem Closed.count_messageLinks (h : past.Closed) (S T : NodeRef) :
    past.messageLinks.count S T = past.traffic S T := by
  rw [Tally.count_eq_sumOver, sumOver_messageLinks, History.ends, List.countP_filterMap, traffic]
  congr 1
  apply List.countP_congr
  intro x hx
  obtain ⟨ends, hends, hs, hd⟩ := h.ends x hx
  simp [connects, hends, standIn?_of_knows hs, standIn?_of_knows hd]

theorem messages_positive (past : History) : past.messages.Positive := by
  apply Tally.positive_empty.run
  intro i hi
  obtain ⟨e, -, rfl⟩ := List.mem_map.1 hi
  exact Int.one_pos

theorem messageLinks_positive (past : History) : past.messageLinks.Positive := by
  apply Tally.positive_empty.run
  intro i hi
  obtain ⟨j, hj, rfl⟩ := List.mem_map.1 hi
  exact past.messages_positive.amount_pos hj

theorem creationLinks_positive (past : History) : past.creationLinks.Positive := by
  apply Tally.positive_empty.run
  intro i hi
  obtain ⟨j, hj, rfl⟩ := List.mem_map.1 hi
  obtain ⟨e, -, rfl⟩ := List.mem_map.1 hj
  exact Int.one_pos

theorem filter_linksOf (creation wanted : Bool) (t : Tally NodeRef) (P : NodeRef → NodeRef → Bool) :
    (View.linksOf creation t).filter (fun l => l.creation = wanted ∧ P l.source l.target) =
      if creation = wanted then (t.increments.filter fun i => P i.source i.target).map
        fun i => ⟨i.source, i.target, i.amount, creation⟩
      else [] := by
  rw [linksOf_eq, List.filter_map]
  split
  · next h =>
    congr 1
    apply List.filter_congr
    simp [h]
  · next h =>
    rw [List.map_eq_nil_iff, List.filter_eq_nil_iff]
    simp [h]

theorem filter_links (past : History) (P : NodeRef → NodeRef → Bool) :
    past.links.filter (fun l => l.creation = false ∧ P l.source l.target) =
      (past.messageLinks.increments.filter fun i => P i.source i.target).map
        fun i => ⟨i.source, i.target, i.amount, false⟩ := by
  rw [links, List.filter_append, filter_linksOf, filter_linksOf, if_pos rfl, if_neg (by decide),
    List.append_nil]

end History

namespace View

/-- Links are always found. Those of messages are one for each pair of nodes that an operation of the
history connects, and count the operations that do; together they count every operation once. A node of a
group belongs to the key of its number. -/
theorem links_count_operations (m : Option MetaModel) (ops : List Op) :
    ∃ v ls log, (run ops (new m)).links = .ok (v, ls, log) ∧
      (∀ S T, ls.filter (fun l => l.creation = false ∧ l.source = S ∧ l.target = T) =
        if (history m ops).traffic S T = 0 then []
        else [⟨S, T, (history m ops).traffic S T, false⟩]) ∧
      ((ls.filter (·.creation = false)).map Link.messageCount).sum =
        (history m ops).operations.length ∧
      (∀ key g, v.activities.groups.get? key = some g →
        g.id = Announcements.number (history m ops).activities key ∧
        g.size = (Announcements.sharing (history m ops).activities key).length) ∧
      (∀ key g, v.passives.groups.get? key = some g →
        g.id = Announcements.number (history m ops).passives key ∧
        g.size = (Announcements.sharing (history m ops).passives key).length) := by
  have h := holds_run m ops
  generalize history m ops = past at h ⊢
  obtain ⟨log, hlog⟩ := h.links
  refine ⟨_, _, log, hlog, ?_, ?_, ?_, ?_⟩
  · intro S T
    have hfilter := past.filter_links fun s d => s = S ∧ d = T
    simp only [decide_eq_true_eq] at hfilter
    rw [hfilter, past.messageLinks_positive.filter_increments, h.closed.count_messageLinks]
    by_cases hzero : past.traffic S T = 0
    · simp [hzero]
    · simp [hzero]
  · have hfilter := past.filter_links fun _ _ => true
    simp only [and_true] at hfilter
    have hsum := past.sumOver_messageLinks fun _ _ => true
    have hlength : past.ends.length = past.operations.length := by
      rw [History.ends, List.length_filterMap_eq_countP, List.countP_eq_length]
      intro x hx
      obtain ⟨ends, hends, -⟩ := h.closed.ends x hx
      rw [hends, Option.isSome_some]
    rw [hfilter, List.map_map]
    rw [Tally.sumOver, Tally.weight, List.countP_true, hlength] at hsum
    exact hsum
  · intro key g hg
    exact h.settled.activities.group_number hg
  · intro key g hg
    exact h.settled.passives.group_number hg

end View

end TraceGraph
