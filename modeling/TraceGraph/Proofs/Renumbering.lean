import TraceGraph.Proofs.Boundaries
import TraceGraph.Proofs.Partition
import Mathlib.Data.List.NodupEquivFin
import Mathlib.Data.Multiset.MapFold
import Mathlib.Logic.Equiv.Fin.Basic

/-! The order of announcements decides how groups are numbered and in which order nodes and members
stand, and nothing else. Histories with the same announcements and messages in another order, where the
last announcement of each id is the same, show the same graph up to a renumbering of the groups: the same
things behind each node, the same links between the nodes, the same counters. -/

namespace TraceGraph

open Announcements Sequence Traced

/-! ### Numbers by order -/

namespace Sequence

variable {κ α β α' β' ε : Type}

/-- Positions in one order are positions in another order renumbered. -/
theorem exists_perm_idxOf [DecidableEq κ] {ks ls : List κ} (hks : ks.Nodup) (h : ks.Perm ls) :
    ∃ ρ : Equiv.Perm ℕ, ∀ k ∈ ks, ρ (ks.idxOf k) = ls.idxOf k := by
  let places := List.Nodup.getEquiv ks hks
  let places' := List.Nodup.getEquiv ls (h.nodup_iff.1 hks)
  let same : {k // k ∈ ks} ≃ {k // k ∈ ls} := Equiv.subtypeEquivRight fun _ => h.mem_iff
  let σ : Equiv.Perm (Fin ks.length) :=
    (places.trans (same.trans places'.symm)).trans (finCongr h.length_eq.symm)
  refine ⟨σ.extendDomain Fin.equivSubtype, fun k hk => ?_⟩
  have hlt : ls.idxOf k < ks.length := by
    rw [h.length_eq]
    exact List.idxOf_lt_length_iff.2 (h.mem_iff.1 hk)
  have hσ : σ (places.symm ⟨k, hk⟩) = ⟨ls.idxOf k, hlt⟩ := by
    apply Fin.ext
    simp only [σ, Equiv.trans_apply, Equiv.apply_symm_apply]
    rfl
  have happly := σ.extendDomain_apply_image Fin.equivSubtype (places.symm ⟨k, hk⟩)
  rw [hσ] at happly
  exact happly

/-- A pass in another order yields the same in another order. -/
theorem mapM_perm {f : α → Except ε β} {as bs : List α} (h : as.Perm bs) {xs : List β}
    (hxs : as.mapM f = .ok xs) : ∃ ys, bs.mapM f = .ok ys ∧ xs.Perm ys := by
  rw [mapM_eq_ok_iff] at hxs
  obtain ⟨ys, hys, hperm⟩ := List.perm_comp_forall₂ h.symm hxs
  exact ⟨ys, mapM_eq_ok_iff.2 hys, hperm.symm⟩

/-- Passes over elements and over their images in another order yield matching results in some order. -/
theorem mapM_rel {f : α → Except ε β} {g : α' → Except ε β'} {k : α → α'} {R : β → β' → Prop}
    (as : List α) {bs : List α'} (hbs : (as.map k).Perm bs)
    (h : ∀ a ∈ as, ∃ x y, f a = .ok x ∧ g (k a) = .ok y ∧ R x y) :
    ∃ xs ys, as.mapM f = .ok xs ∧ bs.mapM g = .ok ys ∧ Multiset.Rel R xs ys := by
  have hmap : ∃ xs ys, as.mapM f = .ok xs ∧ (as.map k).mapM g = .ok ys ∧ Multiset.Rel R xs ys := by
    simp only [mapM_eq_ok_iff]
    clear hbs
    induction as with
    | nil => exact ⟨[], [], .nil, .nil, .zero⟩
    | cons a as ih =>
      obtain ⟨x, y, hx, hy, hR⟩ := h a (by simp)
      obtain ⟨xs, ys, hxs, hys, hrel⟩ := ih fun b hb => h b (by simp [hb])
      exact ⟨x :: xs, y :: ys, .cons hx hxs, .cons hy hys, .cons hR hrel⟩
  obtain ⟨xs, ys, hxs, hys, hrel⟩ := hmap
  obtain ⟨zs, hzs, hperm⟩ := mapM_perm hbs hys
  refine ⟨xs, zs, hxs, hzs, ?_⟩
  rwa [← Multiset.coe_eq_coe.2 hperm]

end Sequence

/-- The node under other numbers of groups, which may differ from kind to kind. -/
def NodeRef.renumber (ρ : Kind → Equiv.Perm ℕ) : NodeRef → NodeRef
  | entity e => entity e
  | group kind n => group kind (ρ kind n)

theorem NodeRef.renumber_injective (ρ : Kind → Equiv.Perm ℕ) : Function.Injective (renumber ρ) := by
  rintro (e | ⟨kind, n⟩) (e' | ⟨kind', n'⟩) h
  · exact h
  · cases h
  · cases h
  · obtain ⟨rfl, hn⟩ := NodeRef.group.inj h
    rw [(ρ kind).injective hn]

/-! ### Announcements in another order -/

namespace Announcements

variable {α : Type} [Traced α] {limit : Int} {as bs cs : List α}

/-- The same announcements in another order, where the same one is the last of its id. -/
structure Reordered (as bs : List α) : Prop where
  perm : as.Perm bs
  latest : ∀ id, latest? as id = latest? bs id

theorem latest?_append (as bs : List α) (id : Int) :
    latest? (as ++ bs) id = (latest? bs id).or (latest? as id) := by
  rw [latest?, latest?, latest?, List.reverse_append, List.find?_append]

/-- Announcements of distinct ids may come in any order after others. -/
theorem Reordered.append (as : List α) (h : bs.Perm cs) (hids : (bs.map Traced.id).Nodup) :
    Reordered (as ++ bs) (as ++ cs) where
  perm := h.append_left as
  latest id := by
    have hids' : (cs.map Traced.id).Nodup := (h.map _).nodup_iff.1 hids
    rw [latest?_append, latest?_append]
    congr 1
    cases hb : latest? bs id with
    | none =>
      rw [latest?_eq_none_iff, mem_ids] at hb
      rw [eq_comm, latest?_eq_none_iff, mem_ids]
      simpa only [h.mem_iff] using hb
    | some a =>
      rw [← id_of_latest? hb]
      exact (latest?_of_mem hids' (h.mem_iff.1 (latest?_mem hb))).symm

namespace Reordered

variable (h : Reordered as bs)
include h

theorem ids_perm : (ids as).Perm (ids bs) := by
  rw [ids, ids, List.perm_ext_iff_of_nodup (nodup_eraseDups _) (nodup_eraseDups _)]
  intro id
  rw [List.mem_eraseDups, List.mem_eraseDups]
  exact (h.perm.map _).mem_iff

theorem keys_perm : (keys as).Perm (keys bs) := by
  rw [keys, keys, List.perm_ext_iff_of_nodup (nodup_eraseDups _) (nodup_eraseDups _)]
  intro key
  rw [List.mem_eraseDups, List.mem_eraseDups]
  exact (h.perm.map _).mem_iff

theorem sharing_perm (key : String) : (sharing as key).Perm (sharing bs key) := h.perm.filter _

theorem crowded_iff (limit : Int) (key : String) : Crowded limit as key ↔ Crowded limit bs key := by
  rw [Crowded, Crowded, (h.sharing_perm key).length_eq]

theorem exists_renumbering :
    ∃ ρ : Equiv.Perm ℕ, ∀ key ∈ keys as, ρ (number as key) = number bs key :=
  exists_perm_idxOf (nodup_eraseDups _) h.keys_perm

theorem creations_perm : (creations as).Perm (creations bs) := by
  rw [creations, creations]
  simp only [h.latest]
  exact h.ids_perm.filterMap _

variable {ρ : Kind → Equiv.Perm ℕ}
  (hρ : ∀ key ∈ keys as, ρ (Traced.kind α) (number as key) = number bs key)
include hρ

theorem nodeOf_eq (limit : Int) {a : α} (ha : a ∈ as) :
    nodeOf limit bs a = (nodeOf limit as a).renumber ρ := by
  by_cases hc : Crowded limit as (Traced.key a)
  · rw [nodeOf_of_crowded hc, nodeOf_of_crowded ((h.crowded_iff limit _).1 hc), NodeRef.renumber,
      hρ _ (mem_keys.2 ⟨a, ha, rfl⟩)]
  · rw [nodeOf_of_not_crowded hc, nodeOf_of_not_crowded fun hb => hc ((h.crowded_iff limit _).2 hb),
      NodeRef.renumber]

theorem standIn?_eq (id : Int) :
    standIn? limit bs id = (standIn? limit as id).map (NodeRef.renumber ρ) := by
  rw [standIn?, standIn?, ← h.latest]
  cases ha : latest? as id with
  | none => rfl
  | some a => exact congrArg some (h.nodeOf_eq hρ limit (latest?_mem ha))

theorem listing_perm (limit : Int) :
    ((listing limit as).map (NodeRef.renumber ρ)).Perm (listing limit bs) := by
  rw [listing, listing, List.perm_ext_iff_of_nodup
    ((nodup_eraseDups _).map (NodeRef.renumber_injective ρ)) (nodup_eraseDups _)]
  intro ref
  simp only [List.mem_map, List.mem_eraseDups, List.mem_filterMap, h.standIn?_eq hρ, Option.map_eq_some_iff]
  constructor
  · rintro ⟨ref, ⟨id, hid, href⟩, rfl⟩
    exact ⟨id, h.ids_perm.mem_iff.1 hid, ref, href, rfl⟩
  · rintro ⟨id, hid, ref, href, rfl⟩
    exact ⟨ref, ⟨id, h.ids_perm.mem_iff.2 hid, href⟩, rfl⟩

end Reordered

end Announcements

/-! ### Histories in another order -/

/-- The link between the same nodes under other numbers of groups. -/
def Link.renumber (ρ : Kind → Equiv.Perm ℕ) (l : Link) : Link :=
  { l with source := l.source.renumber ρ, target := l.target.renumber ρ }

namespace History

variable {past past' : History}

/-- The same announcements and messages in another order. -/
structure Reordered (past past' : History) : Prop where
  activities : Announcements.Reordered past.activities past'.activities
  passives : Announcements.Reordered past.passives past'.passives
  ends : past.ends.Perm past'.ends

/-- Another order in which the groups are numbered as told. -/
structure Renumbered (ρ : Kind → Equiv.Perm ℕ) (past past' : History) : Prop
    extends Reordered past past' where
  activityNumbers : ∀ key ∈ keys past.activities,
    ρ .activity (number past.activities key) = number past'.activities key
  passiveNumbers : ∀ key ∈ keys past.passives,
    ρ .passiveEntity (number past.passives key) = number past'.passives key

theorem Reordered.exists_renumbering (h : past.Reordered past') : ∃ ρ, Renumbered ρ past past' := by
  obtain ⟨ρ, hρ⟩ := h.activities.exists_renumbering
  obtain ⟨σ, hσ⟩ := h.passives.exists_renumbering
  exact ⟨fun kind => if kind = .activity then ρ else σ, h, hρ, hσ⟩

namespace Renumbered

variable {ρ : Kind → Equiv.Perm ℕ} (h : Renumbered ρ past past')
include h

theorem nodeOf : past'.nodeOf = NodeRef.renumber ρ ∘ past.nodeOf := by
  funext ⟨kind, n⟩
  cases kind with
  | activity =>
    simp only [History.nodeOf, History.standIn?, h.activities.standIn?_eq h.activityNumbers,
      Function.comp]
    exact Option.getD_map _ (NodeRef.entity ⟨.activity, n⟩) _
  | passiveEntity =>
    simp only [History.nodeOf, History.standIn?, h.passives.standIn?_eq h.passiveNumbers,
      Function.comp]
    exact Option.getD_map _ (NodeRef.entity ⟨.passiveEntity, n⟩) _
  | dynamicScope => rfl

theorem messages : past.messages.counts.entries.Perm past'.messages.counts.entries :=
  Tally.entries_run_perm (h.ends.map _) Tally.empty

theorem creations : past.creations.Perm past'.creations :=
  h.activities.creations_perm.append h.passives.creations_perm

theorem messageLinks : past'.messageLinks.increments.Perm
    (past.messageLinks.increments.map (Tally.Increment.map (NodeRef.renumber ρ))) := by
  rw [History.messageLinks, h.nodeOf]
  exact Tally.increments_fold_perm (Tally.increments_perm h.messages) past.nodeOf
    (NodeRef.renumber_injective ρ)

theorem creationLinks : past'.creationLinks.increments.Perm
    (past.creationLinks.increments.map (Tally.Increment.map (NodeRef.renumber ρ))) := by
  rw [History.creationLinks, h.nodeOf]
  exact Tally.increments_fold_perm (h.creations.map _) past.nodeOf (NodeRef.renumber_injective ρ)

theorem max_messageLinks : past'.messageLinks.max = past.messageLinks.max := by
  rw [History.messageLinks, h.nodeOf]
  exact Tally.max_fold_eq (Tally.increments_perm h.messages) past.nodeOf (NodeRef.renumber_injective ρ)

theorem links : (past.links.map (Link.renumber ρ)).Perm past'.links := by
  have hlinksOf (creation : Bool) {t u : Tally NodeRef}
      (hp : u.increments.Perm (t.increments.map (Tally.Increment.map (NodeRef.renumber ρ)))) :
      ((View.linksOf creation t).map (Link.renumber ρ)).Perm (View.linksOf creation u) := by
    have hmap := hp.symm.map fun i => (⟨i.source, i.target, i.amount, creation⟩ : Link)
    rw [List.map_map] at hmap
    rw [linksOf_eq, linksOf_eq, List.map_map]
    exact hmap
  rw [History.links, History.links, List.map_append]
  exact (hlinksOf false h.messageLinks).append (hlinksOf true h.creationLinks)

end Renumbered

end History

/-! ### Snapshots in another order -/

/-- What is shown of one node under other numbers of groups, with its members in some order and at
whatever place. -/
structure NodeSummary.Renumbered (ρ : Kind → Equiv.Perm ℕ) (s s' : NodeSummary) : Prop where
  dataIds : ∃ ref : NodeRef, ref.kind = s.kind ∧ s.dataId = ref.dataId ∧ s'.dataId = (ref.renumber ρ).dataId
  viewIds : s.viewId = Identifier.view s.dataId ∧ s'.viewId = Identifier.view s'.dataId
  kind : s.kind = s'.kind
  isGroup : s.isGroup = s'.isGroup
  size : s.size = s'.size
  label : s.label = s'.label
  /-- The same things are behind the node. -/
  members : ∃ ids ids' : List Int, ids.Perm ids' ∧ ids.length = s.size ∧
    s.query = Identifier.query ids ∧ s'.query = Identifier.query ids'

/-- What is shown of one link under other numbers of groups. -/
def LinkSummary.Renumbered (ρ : Kind → Equiv.Perm ℕ) (l l' : LinkSummary) : Prop :=
  ∃ link : Link, l = link.summary ∧ l' = (link.renumber ρ).summary

/-- The same graph up to the numbers of groups, the order of nodes, members and links, and places. -/
structure Snapshot.Renumbered (ρ : Kind → Equiv.Perm ℕ) (s s' : Snapshot) : Prop where
  activityNodes : Multiset.Rel (NodeSummary.Renumbered ρ) s.activityNodes s'.activityNodes
  entityNodes : Multiset.Rel (NodeSummary.Renumbered ρ) s.entityNodes s'.entityNodes
  links : Multiset.Rel (LinkSummary.Renumbered ρ) s.links s'.links
  maxSends : s.maxSends = s'.maxSends
  maxLink : s.maxLink = s'.maxLink

section Nodes
variable {α : Type} [Traced α] {limit : Int} {as bs : List α} {ρ : Kind → Equiv.Perm ℕ}

theorem Announcements.Reordered.behind_perm (h : Reordered as bs) (limit : Int) (a : α) :
    (behind limit as a).Perm (behind limit bs a) := by
  unfold behind
  simp only [h.crowded_iff limit]
  split
  · exact (h.sharing_perm _).map _
  · exact .refl _

/-- Nodes of one key with the same members in some order are shown alike. -/
theorem Node.summary?_renumbered {n n' : Node α} {ref : NodeRef} {key : String}
    (hkind : ref.kind = Traced.kind α) (hn : n.dataId = ref.dataId)
    (hn' : n'.dataId = (ref.renumber ρ).dataId) (hgroup : n.isGroup = n'.isGroup)
    (hmembers : (n.members.map traits).Perm (n'.members.map traits)) (hne : n.members ≠ [])
    (hkey : ∀ t ∈ n.members.map traits, t.key = key) :
    ∃ s s', n.summary? = some s ∧ n'.summary? = some s' ∧ s.Renumbered ρ s' := by
  have hlength : n.members.length = n'.members.length := by
    have hlength := hmembers.length_eq
    rwa [List.length_map, List.length_map] at hlength
  have hids : (n.members.map Traced.id).Perm (n'.members.map Traced.id) := by
    have hids := hmembers.map Traits.id
    rwa [List.map_map, List.map_map] at hids
  obtain ⟨a, as, ha⟩ := List.exists_cons_of_ne_nil hne
  obtain ⟨b, bs, hb⟩ := List.exists_cons_of_length_pos (by
    rw [← hlength, ha]
    exact Nat.succ_pos _)
  have hkeyA : Traced.key a = key := hkey (traits a) (List.mem_map_of_mem (by rw [ha]; simp))
  have hkeyB : Traced.key b = key :=
    hkey (traits b) (hmembers.mem_iff.2 (List.mem_map_of_mem (by rw [hb]; simp)))
  refine ⟨_, _, by rw [summary?, representative?, ha]; rfl,
    by rw [summary?, representative?, hb]; rfl, ?_⟩
  exact ⟨⟨ref, hkind, hn, hn'⟩, ⟨rfl, rfl⟩, rfl, hgroup, hlength, hkeyA.trans hkeyB.symm,
    ⟨_, _, hids, List.length_map _, rfl, rfl⟩⟩

/-- Populations with the same announcements in another order show the same nodes, renumbered. -/
theorem Population.Holds.summary?_renumbered {p q : Population α} (hp : p.Holds limit as)
    (hq : q.Holds limit bs) (h : Reordered as bs)
    (hρ : ∀ key ∈ Announcements.keys as, ρ (Traced.kind α) (number as key) = number bs key)
    {ref : NodeRef} (href : ref ∈ listing limit as) :
    ∃ n n' s s', p.settled.node? ref = some n ∧ q.settled.node? (ref.renumber ρ) = some n' ∧
      n.summary? = some s ∧ n'.summary? = some s' ∧ s.Renumbered ρ s' := by
  have hkind := kind_of_mem_listing href
  obtain ⟨id, a, ha, rfl⟩ := mem_listing.1 href
  have hrenumber := h.nodeOf_eq hρ limit (latest?_mem ha)
  obtain ⟨n, hn, hid, hgroup, hmembers⟩ := hp.node?_nodeOf ha
  obtain ⟨n', hn', hid', hgroup', hmembers'⟩ := hq.node?_nodeOf ((h.latest id).symm.trans ha)
  rw [hrenumber] at hn' hid'
  have hsame : n.isGroup = n'.isGroup := by
    rw [hgroup, hgroup', decide_eq_decide]
    exact h.crowded_iff limit _
  have hperm : (n.members.map traits).Perm (n'.members.map traits) := by
    rw [hmembers, hmembers']
    exact h.behind_perm limit a
  have hne : n.members ≠ [] := by
    intro hnil
    have hmem := traits_mem_behind limit (latest?_mem ha)
    rw [← hmembers, hnil] at hmem
    cases hmem
  obtain ⟨s, s', hs, hs', hshown⟩ := Node.summary?_renumbered hkind hid hid' hsame hperm hne
    fun t ht => key_of_mem_behind (by rwa [hmembers] at ht)
  exact ⟨n, n', s, s', hn, hn', hs, hs', hshown⟩

end Nodes

namespace View

variable {v w : View} {past past' : History} {ρ : Kind → Equiv.Perm ℕ}

/-- Views of histories in another order show the same graph, renumbered. -/
theorem Holds.snapshot_renumbered (hv : v.Holds past) (hw : w.Holds past')
    (h : past.Renumbered ρ past') (hsends : v.maxSends = w.maxSends) :
    ∃ s s' log log', v.snapshot = .ok ({ v.settled with maxLink := past.messageLinks.max }, s, log) ∧
      w.snapshot = .ok ({ w.settled with maxLink := past.messageLinks.max }, s', log') ∧
      s.Renumbered ρ s' := by
  have hactivities := h.activities.listing_perm h.activityNumbers activityThreshold
  have hpassives := h.passives.listing_perm h.passiveNumbers passiveThreshold
  obtain ⟨as, as', has, has', hrelA⟩ := mapM_rel (f := v.settled.summary) (g := w.settled.summary)
    (R := NodeSummary.Renumbered ρ) _ hactivities fun ref href => by
      obtain ⟨n, n', s, s', hn, hn', hs, hs', hsame⟩ :=
        hv.activities.summary?_renumbered hw.activities h.activities h.activityNumbers href
      exact ⟨s, s', summary_of_node? (node?_activity hn) hs, summary_of_node? (node?_activity hn') hs',
        hsame⟩
  obtain ⟨bs, bs', hbs, hbs', hrelB⟩ := mapM_rel (f := v.settled.summary) (g := w.settled.summary)
    (R := NodeSummary.Renumbered ρ) _ hpassives fun ref href => by
      obtain ⟨n, n', s, s', hn, hn', hs, hs', hsame⟩ :=
        hv.passives.summary?_renumbered hw.passives h.passives h.passiveNumbers href
      exact ⟨s, s', summary_of_node? (node?_passive hn) hs, summary_of_node? (node?_passive hn') hs',
        hsame⟩
  obtain ⟨log, hlog⟩ := hv.snapshot_eq has hbs
  obtain ⟨log', hlog'⟩ := hw.snapshot_eq has' hbs'
  rw [h.max_messageLinks, ← hsends] at hlog'
  refine ⟨_, _, log, log', hlog, hlog', hrelA, hrelB, ?_, rfl, rfl⟩
  have hlinks : Multiset.Rel (LinkSummary.Renumbered ρ) ((past.links : Multiset Link).map Link.summary)
      ((past.links : Multiset Link).map fun l => (l.renumber ρ).summary) :=
    Multiset.rel_map.2 (Multiset.rel_refl_of_refl_on fun l _ => ⟨l, rfl, rfl⟩)
  have hperm := h.links.map Link.summary
  rw [List.map_map] at hperm
  rw [← Multiset.coe_eq_coe.2 hperm]
  exact hlinks

end View

end TraceGraph
