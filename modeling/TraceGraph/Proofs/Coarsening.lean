import TraceGraph.Proofs.Maxima
import TraceGraph.Proofs.Partition

/-! What becomes of the nodes while a history grows. As long as no id comes twice, a node that stands for
two things goes on to stand for both: a group that is crowded stays so with its number, and an own node
stands for one thing only. So the nodes only ever merge, and a pair of nodes has at least the messages
that it had when it was several. -/

namespace TraceGraph

open Announcements Sequence Traced

/-! ### More announcements -/

namespace Announcements

variable {α : Type} [Traced α] {limit : Int} {as : List α} {key : String} {a b : α}

theorem number_append (h : key ∈ keys as) (bs : List α) : number (as ++ bs) key = number as key := by
  unfold number keys at *
  rw [List.map_append, List.eraseDups_append]
  exact List.idxOf_append_of_mem h

theorem Crowded.append (h : Crowded limit as key) (bs : List α) : Crowded limit (as ++ bs) key := by
  unfold Crowded at *
  rw [sharing, List.filter_append, List.length_append, ← sharing]
  omega

theorem nodeOf_append_of_crowded (ha : a ∈ as) (h : Crowded limit as (Traced.key a)) (bs : List α) :
    nodeOf limit (as ++ bs) a = nodeOf limit as a := by
  rw [nodeOf_of_crowded h, nodeOf_of_crowded (h.append bs), number_append (mem_keys.2 ⟨a, ha, rfl⟩)]

/-- Announcements with one node keep one node. -/
theorem nodeOf_append_congr (hids : (as.map Traced.id).Nodup) (ha : a ∈ as) (hb : b ∈ as)
    (h : nodeOf limit as b = nodeOf limit as a) (bs : List α) :
    nodeOf limit (as ++ bs) b = nodeOf limit (as ++ bs) a := by
  by_cases hc : Crowded limit as (Traced.key a)
  · have hkey := (nodeOf_eq_iff_of_crowded ha hc).1 h
    rw [nodeOf_append_of_crowded hb (by rwa [hkey]), nodeOf_append_of_crowded ha hc, h]
  · rw [(nodeOf_eq_iff_of_not_crowded hc fun hid => List.inj_on_of_nodup_map hids hb ha hid).1 h]

end Announcements

namespace History

variable {past more : History} {e f : EntityRef}

/-- No id of a kind comes twice. -/
structure Distinct (past : History) : Prop where
  activities : (past.activities.map Activity.id).Nodup
  passives : (past.passives.map PassiveEntity.id).Nodup

theorem activities_append : activities (past ++ more) = past.activities ++ more.activities :=
  List.flatMap_append

theorem passives_append : passives (past ++ more) = past.passives ++ more.passives :=
  List.flatMap_append

theorem ends_append : ends (past ++ more) = past.ends ++ more.ends := by
  rw [ends, operations, List.flatMap_append, List.filterMap_append]
  rfl

theorem Distinct.of_append (h : Distinct (past ++ more)) : past.Distinct where
  activities := by
    have hids := h.activities
    rw [activities_append, List.map_append] at hids
    exact hids.of_append_left
  passives := by
    have hids := h.passives
    rw [passives_append, List.map_append] at hids
    exact hids.of_append_left

theorem Knows.exists_announcement (h : past.Knows e) :
    (∃ a ∈ past.activities, e = ⟨.activity, a.id⟩) ∨ ∃ a ∈ past.passives, e = ⟨.passiveEntity, a.id⟩ := by
  obtain ⟨kind, id⟩ := e
  cases kind with
  | activity =>
    obtain ⟨a, ha, rfl⟩ := mem_ids.1 h
    exact .inl ⟨a, ha, rfl⟩
  | passiveEntity =>
    obtain ⟨a, ha, rfl⟩ := mem_ids.1 h
    exact .inr ⟨a, ha, rfl⟩
  | dynamicScope => exact h.elim

theorem Distinct.nodeOf_activity (h : past.Distinct) {a : Activity} (ha : a ∈ past.activities) :
    past.nodeOf ⟨.activity, a.id⟩ = Announcements.nodeOf activityThreshold past.activities a := by
  have hlatest : latest? past.activities a.id = some a := latest?_of_mem h.activities ha
  rw [nodeOf, standIn?, Announcements.standIn?, hlatest, Option.map_some, Option.getD_some]

theorem Distinct.nodeOf_passive (h : past.Distinct) {a : PassiveEntity} (ha : a ∈ past.passives) :
    past.nodeOf ⟨.passiveEntity, a.id⟩ = Announcements.nodeOf passiveThreshold past.passives a := by
  have hlatest : latest? past.passives a.id = some a := latest?_of_mem h.passives ha
  rw [nodeOf, standIn?, Announcements.standIn?, hlatest, Option.map_some, Option.getD_some]

theorem mem_activities_append {a : Activity} (ha : a ∈ past.activities) (more : History) :
    a ∈ activities (past ++ more) := by
  rw [activities_append]
  exact List.mem_append_left _ ha

theorem mem_passives_append {a : PassiveEntity} (ha : a ∈ past.passives) (more : History) :
    a ∈ passives (past ++ more) := by
  rw [passives_append]
  exact List.mem_append_left _ ha

theorem Knows.append (h : past.Knows e) (more : History) : Knows (past ++ more) e := by
  obtain ⟨a, ha, rfl⟩ | ⟨a, ha, rfl⟩ := h.exists_announcement
  · exact mem_ids.2 ⟨a, mem_activities_append ha more, rfl⟩
  · exact mem_ids.2 ⟨a, mem_passives_append ha more, rfl⟩

/-- Things behind one node stay behind one node. -/
theorem Distinct.nodeOf_append_congr (h : Distinct (past ++ more)) (he : past.Knows e) (hf : past.Knows f)
    (hnode : past.nodeOf e = past.nodeOf f) : nodeOf (past ++ more) e = nodeOf (past ++ more) f := by
  have hpast := h.of_append
  obtain ⟨a, ha, rfl⟩ | ⟨a, ha, rfl⟩ := he.exists_announcement <;>
    obtain ⟨b, hb, rfl⟩ | ⟨b, hb, rfl⟩ := hf.exists_announcement
  · rw [hpast.nodeOf_activity ha, hpast.nodeOf_activity hb] at hnode
    rw [h.nodeOf_activity (mem_activities_append ha more), h.nodeOf_activity (mem_activities_append hb more),
      activities_append]
    exact Announcements.nodeOf_append_congr hpast.activities hb ha hnode _
  · rw [hpast.nodeOf_activity ha, hpast.nodeOf_passive hb] at hnode
    have hkind := congrArg NodeRef.kind hnode
    rw [kind_nodeOf, kind_nodeOf] at hkind
    cases hkind
  · rw [hpast.nodeOf_passive ha, hpast.nodeOf_activity hb] at hnode
    have hkind := congrArg NodeRef.kind hnode
    rw [kind_nodeOf, kind_nodeOf] at hkind
    cases hkind
  · rw [hpast.nodeOf_passive ha, hpast.nodeOf_passive hb] at hnode
    rw [h.nodeOf_passive (mem_passives_append ha more), h.nodeOf_passive (mem_passives_append hb more),
      passives_append]
    exact Announcements.nodeOf_append_congr hpast.passives hb ha hnode _

theorem count_messageLinks (past : History) (S T : NodeRef) :
    past.messageLinks.count S T = past.ends.countP fun e => past.nodeOf e.1 = S ∧ past.nodeOf e.2 = T := by
  rw [Tally.count_eq_sumOver, sumOver_messageLinks]

/-- The most messages on a link never get fewer. -/
theorem Distinct.max_messageLinks_append (h : Distinct (past ++ more)) (hclosed : past.Closed) :
    past.messageLinks.max ≤ (messageLinks (past ++ more)).max := by
  have hbound := ((messageLinks_positive (past ++ more)).max_le_iff _).1 (le_refl _)
  obtain ⟨i, hi, hmax⟩ | ⟨-, hmax⟩ := past.messageLinks.exists_amount_eq_max
  · have hpos := past.messageLinks_positive.amount_pos hi
    have hcount : past.messageLinks.count i.source i.target = i.amount := by
      rw [Tally.count, Tally.mem_increments.1 hi, Option.getD_some]
    rw [count_messageLinks] at hcount
    -- the link's messages are all on the link that one of them is on later
    obtain ⟨e, he, hends⟩ : ∃ e ∈ past.ends, past.nodeOf e.1 = i.source ∧ past.nodeOf e.2 = i.target := by
      have hpos' : 0 < past.ends.countP fun e => past.nodeOf e.1 = i.source ∧ past.nodeOf e.2 = i.target := by
        omega
      obtain ⟨e, he, htest⟩ := List.countP_pos_iff.1 hpos'
      exact ⟨e, he, of_decide_eq_true htest⟩
    obtain ⟨he₁, he₂⟩ := hclosed.knows_of_mem_ends he
    have hlater := hbound.2 (nodeOf (past ++ more) e.1) (nodeOf (past ++ more) e.2)
    rw [count_messageLinks, ends_append, List.countP_append] at hlater
    have hmono : (past.ends.countP fun e => past.nodeOf e.1 = i.source ∧ past.nodeOf e.2 = i.target) ≤
        past.ends.countP fun d => nodeOf (past ++ more) d.1 = nodeOf (past ++ more) e.1 ∧
          nodeOf (past ++ more) d.2 = nodeOf (past ++ more) e.2 := by
      apply List.countP_mono_left
      intro d hd htest
      obtain ⟨hd₁, hd₂⟩ := hclosed.knows_of_mem_ends hd
      obtain ⟨hs, ht⟩ := of_decide_eq_true htest
      exact decide_eq_true ⟨h.nodeOf_append_congr hd₁ he₁ (hs.trans hends.1.symm),
        h.nodeOf_append_congr hd₂ he₂ (ht.trans hends.2.symm)⟩
    omega
  · rw [hmax]
    exact hbound.1

end History

/-! ### Runs without reset -/

namespace View

variable {v : View} {past : History} {ops : List Op} {op : Op}

/-- Without a reset a history only grows. -/
theorem exists_remember_eq (v : View) (past : History) (hop : op ≠ .reset) :
    ∃ more, remember v past op = past ++ more := by
  cases op with
  | reset => exact absurd rfl hop
  | ingest b =>
    rw [remember]
    split
    · exact ⟨_, rfl⟩
    · exact ⟨[], (List.append_nil past).symm⟩
  | _ => exact ⟨[], (List.append_nil past).symm⟩

theorem exists_historyAfter_eq (v : View) (past : History) (hops : ∀ op ∈ ops, op ≠ .reset) :
    ∃ more, historyAfter ops v past = past ++ more := by
  induction ops generalizing v past with
  | nil => exact ⟨[], (List.append_nil past).symm⟩
  | cons op ops ih =>
    obtain ⟨more, hmore⟩ := exists_remember_eq v past (hops op (by simp))
    obtain ⟨rest, hrest⟩ := ih (op.run v).view (remember v past op) fun o ho => hops o (by simp [ho])
    refine ⟨more ++ rest, ?_⟩
    rw [historyAfter, hrest, hmore, List.append_assoc]

/-- A run that ends without a reset has the history of its first part, and more. -/
theorem exists_history_eq (m : Option MetaModel) (ops : List Op) {more : List Op} (hmore : .reset ∉ more) :
    ∃ rest, history m (ops ++ more) = history m ops ++ rest := by
  rw [history_append]
  exact exists_historyAfter_eq _ _ fun op hop => ne_of_mem_of_not_mem hop hmore

theorem distinct_of_append {m : Option MetaModel} {more : List Op} (hmore : .reset ∉ more)
    (hids : (history m (ops ++ more)).Distinct) : (history m ops).Distinct := by
  obtain ⟨rest, hrest⟩ := exists_history_eq m ops hmore
  exact (hrest ▸ hids).of_append

theorem distinct_remember {m : Option MetaModel} {more : List Op} (hmore : .reset ∉ more)
    (hids : (history m (ops ++ op :: more)).Distinct) :
    (remember (run ops (new m)) (history m ops) op).Distinct := by
  rw [List.append_cons] at hids
  rw [← history_snoc]
  exact distinct_of_append hmore hids

/-- The most messages on a link, as last read, never get fewer and never exceed what can be read. -/
theorem Holds.maxLink_step (h : v.Holds past) (hle : v.maxLink ≤ past.messageLinks.max) (hop : op ≠ .reset)
    (hids : (remember v past op).Distinct) :
    v.maxLink ≤ (op.run v).view.maxLink ∧
      (op.run v).view.maxLink ≤ (remember v past op).messageLinks.max := by
  by_cases hcounts : op.counts = false
  · obtain ⟨-, -, hlink⟩ := h.counters_step hcounts
    rw [remember_of_not_counts v past hcounts, hlink]
    split
    · exact ⟨hle, le_refl _⟩
    · exact ⟨le_refl _, hle⟩
  · cases op with
    | ingest b =>
      obtain ⟨more, hmore⟩ := exists_remember_eq v past hop
      rw [hmore] at hids ⊢
      have hlink : ((Op.ingest b).run v).view.maxLink = v.maxLink := v.absorb_maxLink b
      rw [hlink]
      exact ⟨le_refl _, hle.trans (hids.max_messageLinks_append h.closed)⟩
    | reset => exact absurd rfl hop
    | _ => exact absurd rfl hcounts

theorem Holds.maxLink_run (h : v.Holds past) (hle : v.maxLink ≤ past.messageLinks.max)
    (hops : ∀ op ∈ ops, op ≠ .reset) (hids : (historyAfter ops v past).Distinct) :
    v.maxLink ≤ (View.run ops v).maxLink ∧
      (View.run ops v).maxLink ≤ (historyAfter ops v past).messageLinks.max := by
  induction ops generalizing v past with
  | nil => exact ⟨le_refl _, hle⟩
  | cons op ops ih =>
    have hrest : ∀ o ∈ ops, o ≠ .reset := fun o ho => hops o (by simp [ho])
    have hids' := hids
    obtain ⟨more, hmore⟩ := exists_historyAfter_eq (op.run v).view (remember v past op) hrest
    rw [historyAfter, hmore] at hids'
    obtain ⟨hstep, hle'⟩ := h.maxLink_step hle (hops op (by simp)) hids'.of_append
    obtain ⟨hrun, hbound⟩ := ih (h.step op) hle' hrest hids
    exact ⟨hstep.trans hrun, hbound⟩

end View

end TraceGraph
