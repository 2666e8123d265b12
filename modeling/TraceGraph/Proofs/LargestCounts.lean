import TraceGraph.Proofs.Coarsening
import TraceGraph.Proofs.Transparency

/-! The largest counts. The one of messages between two things is kept up as batches come and is at every
moment the largest number of operations of the history from one thing to another. The one of messages on a
link is told anew whenever links are read, and lies between that of two things and the total, however the
things are grouped: the operations between two things are all on one link. -/

namespace TraceGraph

namespace History

variable {past : History} {e f : EntityRef}

/-- How many operations went from one thing to another. -/
def between (past : History) (e f : EntityRef) : Nat :=
  past.operations.countP fun x => x.2.ends? x.1 = some (e, f)

theorem between_eq (past : History) (e f : EntityRef) :
    past.between e f = past.ends.countP fun d => d.1 = e ∧ d.2 = f := by
  rw [History.ends, List.countP_filterMap, between]
  congr 1
  funext x
  cases x.2.ends? x.1 <;> simp [Prod.ext_iff]

theorem count_messages (past : History) (e f : EntityRef) : past.messages.count e f = past.between e f := by
  rw [messages, Tally.count_run, Tally.weight_ones, between_eq]
  exact Int.zero_add _

theorem between_le_max (past : History) (e f : EntityRef) : (past.between e f : Int) ≤ past.messages.max := by
  rw [← count_messages]
  exact ((past.messages_positive.max_le_iff _).1 (le_refl _)).2 e f

theorem max_messages_append (past more : History) : past.messages.max ≤ (messages (past ++ more)).max := by
  have hbound := ((messages_positive (past ++ more)).max_le_iff _).1 (le_refl _)
  rw [past.messages_positive.max_le_iff]
  refine ⟨hbound.1, fun e f => ?_⟩
  have hall := hbound.2 e f
  rw [count_messages, between_eq, ends_append, List.countP_append] at hall
  rw [count_messages, between_eq]
  omega

/-- The largest count of messages is that of two things with an operation between them, if there is any
operation. -/
theorem Closed.exists_between_eq_max (h : past.Closed) :
    (∃ e f, 0 < past.between e f ∧ past.messages.max = past.between e f) ∨
      past.operations = [] ∧ past.messages.max = 0 := by
  obtain ⟨i, hi, hmax⟩ | ⟨-, hmax⟩ := past.messages.exists_amount_eq_max
  · have hpos := past.messages_positive.amount_pos hi
    have hcount : past.messages.count i.source i.target = i.amount := by
      rw [Tally.count, Tally.mem_increments.1 hi, Option.getD_some]
    rw [count_messages] at hcount
    exact .inl ⟨i.source, i.target, by omega, by rw [← hmax, hcount]⟩
  · refine .inr ⟨List.eq_nil_iff_forall_not_mem.2 fun x hx => ?_, hmax⟩
    obtain ⟨ends, hends, -⟩ := h.ends x hx
    have hpos : 0 < past.between ends.1 ends.2 := List.countP_pos_iff.2 ⟨x, hx, decide_eq_true hends⟩
    have hle := past.between_le_max ends.1 ends.2
    omega

theorem total_messages (past : History) : past.messages.total = past.ends.length :=
  Tally.total_run_ones past.ends

/-- The operations between two things are all on the link of their nodes. -/
theorem max_messages_le (past : History) : past.messages.max ≤ past.messageLinks.max := by
  have hbound := (past.messageLinks_positive.max_le_iff _).1 (le_refl _)
  rw [past.messages_positive.max_le_iff]
  refine ⟨hbound.1, fun e f => ?_⟩
  have hlink := hbound.2 (past.nodeOf e) (past.nodeOf f)
  rw [count_messageLinks] at hlink
  rw [count_messages, between_eq]
  have hmono : (past.ends.countP fun d => d.1 = e ∧ d.2 = f) ≤
      past.ends.countP fun d => past.nodeOf d.1 = past.nodeOf e ∧ past.nodeOf d.2 = past.nodeOf f := by
    apply List.countP_mono_left
    intro d _ hd
    obtain ⟨rfl, rfl⟩ := of_decide_eq_true hd
    exact decide_eq_true ⟨rfl, rfl⟩
  omega

theorem max_messageLinks_le (past : History) : past.messageLinks.max ≤ past.messages.total := by
  rw [total_messages, past.messageLinks_positive.max_le_iff]
  refine ⟨Int.natCast_nonneg _, fun S T => ?_⟩
  rw [count_messageLinks]
  exact_mod_cast List.countP_le_length

/-- The largest count on a message link. -/
theorem max_eq_of_links (past : History) :
    past.messageLinks.max = ((past.links.filter (·.creation = false)).map Link.messageCount).max?.getD 0 := by
  have hfilter := past.filter_links fun _ _ => true
  simp only [and_true, List.filter_true] at hfilter
  rw [hfilter, List.map_map, Tally.max_eq]
  rfl

end History

namespace View

variable {v : View} {past : History}

theorem Holds.maxLink_step_of_ne (h : v.Holds past) {op : Op} (hlinks : op ≠ .links) (hreset : op ≠ .reset) :
    (op.run v).view.maxLink = v.maxLink := by
  by_cases hcounts : op.counts = false
  · obtain ⟨-, -, hlink⟩ := h.counters_step hcounts
    rw [hlink]
    cases op with
    | links => exact absurd rfl hlinks
    | _ => rfl
  · cases op with
    | ingest b => exact v.absorb_maxLink b
    | reset => exact absurd rfl hreset
    | _ => exact absurd rfl hcounts

/-- The largest count on a link stays what it was when links were last read. -/
theorem Holds.maxLink_run_of_notMem (h : v.Holds past) {ops : List Op} (hlinks : .links ∉ ops)
    (hreset : .reset ∉ ops) : (View.run ops v).maxLink = v.maxLink := by
  induction ops generalizing v past with
  | nil => rfl
  | cons op ops ih =>
    rw [List.mem_cons, not_or] at hlinks hreset
    rw [run_cons, ih (h.step op) hlinks.2 hreset.2,
      h.maxLink_step_of_ne (Ne.symm hlinks.1) (Ne.symm hreset.1)]

theorem maxSends_eq (m : Option MetaModel) (ops : List Op) :
    (run ops (new m)).maxSends = (history m ops).messages.max := by
  rw [maxSends_run, (holds_run m ops).messages]
  rfl

/-- Runs that differ only in reads have counted the same. -/
theorem maxSends_filter (m : Option MetaModel) (ops : List Op) :
    (run (ops.filter fun op => !op.isRead) (new m)).maxSends = (run ops (new m)).maxSends := by
  have hcalls : (ops.map Call.op).filterMap Call.change? = ops.filter fun op => !op.isRead := by
    rw [List.filterMap_map, ← List.filterMap_eq_filter]
    congr 1
    funext op
    cases h : op.isRead <;> simp [Call.change?, Option.guard, h]
  have hafter : after (ops.map Call.op) (new m) = run ops (new m) := List.foldl_map
  obtain ⟨-, halike⟩ := (holds_new m).alike_self.calls (ops.map Call.op)
  rw [hcalls, hafter] at halike
  exact halike.maxSends.symm

/-- The most messages between two things are the operations of the history between some two things, and no
two things have more; they do not depend on what was read, and get no fewer until a reset. When links are
read, the most messages on a link are those on one of the message links, and lie between the most messages
between two things and all messages; that number stays until links are read again, and is 0 from a reset to
the next reading of links. -/
theorem maxima_exact (m : Option MetaModel) (ops : List Op) :
    let v := run ops (new m)
    let past := history m ops
    (∀ e f, past.between e f ≤ v.maxSends) ∧
    ((∃ e f, 0 < past.between e f ∧ v.maxSends = past.between e f) ∨ past.operations = [] ∧ v.maxSends = 0) ∧
    (∀ others : List Op, (others.filter fun op => !op.isRead) = (ops.filter fun op => !op.isRead) →
      (run others (new m)).maxSends = v.maxSends) ∧
    (∀ more, .reset ∉ more → v.maxSends ≤ (run more v).maxSends) ∧
    (∃ w ls log, v.links = .ok (w, ls, log) ∧
      w.maxLink = ((ls.filter (·.creation = false)).map Link.messageCount).max?.getD 0 ∧
      w.maxSends = v.maxSends ∧ w.maxSends ≤ w.maxLink ∧ w.maxLink ≤ w.stats.messages ∧
      ∀ more, .links ∉ more → .reset ∉ more → (run more w).maxLink = w.maxLink) ∧
    ∀ more, .links ∉ more → .reset ∉ more → (run more v.reset).maxLink = 0 := by
  have h := holds_run m ops
  have hsends : (run ops (new m)).maxSends = (history m ops).messages.max := maxSends_eq m ops
  intro v past
  refine ⟨?_, ?_, ?_, ?_, ?_, ?_⟩
  · intro e f
    rw [hsends]
    exact past.between_le_max e f
  · rw [hsends]
    exact h.closed.exists_between_eq_max
  · intro others hsame
    rw [← maxSends_filter, hsame, maxSends_filter]
  · intro more hmore
    obtain ⟨rest, hrest⟩ := exists_history_eq m ops hmore
    have hlater : (run more v).maxSends = (History.messages (past ++ rest)).max := by
      rw [← run_append, maxSends_eq, hrest]
    rw [hsends, hlater]
    exact past.max_messages_append rest
  · obtain ⟨log, hlog⟩ := h.links
    refine ⟨_, _, log, hlog, past.max_eq_of_links, rfl, ?_, ?_, ?_⟩
    · exact hsends.trans_le past.max_messages_le
    · have htotal : v.messages = past.messages := h.messages
      exact past.max_messageLinks_le.trans_eq (congrArg Tally.total htotal.symm)
    · intro more hlinks hreset
      exact (h.settledWith past.messageLinks.max).maxLink_run_of_notMem hlinks hreset
  · intro more hlinks hreset
    exact (holds_new v.metaModel).maxLink_run_of_notMem hlinks hreset

end View

end TraceGraph
