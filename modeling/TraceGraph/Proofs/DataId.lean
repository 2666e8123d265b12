import Mathlib
import TraceGraph.Proofs.Snapshot

/-! Data ids tell nodes apart. A mark and a decimal number determine each other, and the marks of groups
differ from that of single things. So two nodes share a data id only if they are the own nodes of things
of different kinds with the same id; among those the activity is found first. -/

namespace TraceGraph

open Announcements Sequence Traced

/-! ### Identifiers -/

namespace Identifier

theorem not_mem_repr {c : Char} (hdigit : c.isDigit = false) (hminus : '-' ≠ c) (i : Int) :
    c ∉ i.repr.toList := by
  have hnat (n : Nat) : c ∉ n.repr.toList := by
    rw [Nat.toList_repr]
    intro h
    have hdigits := Nat.isDigit_of_mem_toDigits (by decide) (by decide) h
    rw [hdigit] at hdigits
    cases hdigits
  cases i with
  | ofNat n => exact hnat n
  | negSucc n => simpa [Int.repr, hminus.symm] using hnat (n + 1)

theorem marked_inj (mark : String) {i j : Int} : mark ++ toString i = mark ++ toString j ↔ i = j := by
  rw [String.append_right_inj, Int.toString_eq_repr, Int.toString_eq_repr, Int.repr_inj]

theorem entity_inj {i j : Int} : entity i = entity j ↔ i = j := marked_inj "e"

end Identifier

/-! ### Nodes by data id -/

namespace NodeRef

/-- The own nodes of things of different kinds that have the same id. -/
def Namesakes : NodeRef → NodeRef → Prop
  | entity e, entity f => e.id = f.id ∧ e.kind ≠ f.kind
  | _, _ => False

theorem Namesakes.entities {r s : NodeRef} (h : r.Namesakes s) :
    ∃ id k k', k ≠ k' ∧ r = .entity ⟨k, id⟩ ∧ s = .entity ⟨k', id⟩ := by
  rcases r with ⟨k, i⟩ | ⟨k, m⟩ <;> rcases s with ⟨k', j⟩ | ⟨k', n⟩
  · obtain ⟨rfl, hkind⟩ := h
    exact ⟨i, k, k', hkind, rfl, rfl⟩
  all_goals exact h.elim

/-- The letter that a data id begins with. -/
def letter : NodeRef → Char
  | entity _ => 'e'
  | group .activity _ => 'a'
  | group _ _ => 'p'

theorem head?_dataId {r : NodeRef} (h : r.kind ≠ .dynamicScope) :
    r.dataId.toList.head? = some r.letter := by
  rcases r with e | ⟨kind, n⟩
  · simp [dataId, Identifier.entity, letter]
  · cases kind with
    | activity => simp [dataId, Identifier.group?, Identifier.groupMark?, letter]
    | passiveEntity => simp [dataId, Identifier.group?, Identifier.groupMark?, letter]
    | dynamicScope => exact absurd rfl h

theorem dataId_group_inj {kind : Kind} (hkind : kind ≠ .dynamicScope) {m n : Nat} :
    (group kind m).dataId = (group kind n).dataId ↔ m = n := by
  have hmark (mark : String) : mark ++ toString (m : Int) = mark ++ toString (n : Int) ↔ m = n := by
    rw [Identifier.marked_inj, Int.ofNat_inj]
  cases kind with
  | activity => exact hmark "ag"
  | passiveEntity => exact hmark "pg"
  | dynamicScope => exact absurd rfl hkind

/-- Nodes of the same data id are the same or namesakes. -/
theorem dataId_eq_iff {r s : NodeRef} (hr : r.kind ≠ .dynamicScope) (hs : s.kind ≠ .dynamicScope) :
    r.dataId = s.dataId ↔ r = s ∨ r.Namesakes s := by
  constructor
  · intro h
    have hletter : r.letter = s.letter := by
      have hhead := congrArg (fun t => t.toList.head?) h
      simp only [head?_dataId hr, head?_dataId hs] at hhead
      exact Option.some.inj hhead
    rcases r with ⟨k, i⟩ | ⟨k, m⟩ <;> rcases s with ⟨k', j⟩ | ⟨k', n⟩
    · obtain rfl := Identifier.entity_inj.1 h
      by_cases hk : k = k'
      · exact .inl (by rw [hk])
      · exact .inr ⟨rfl, hk⟩
    · cases k' <;> simp [letter] at hletter
    · cases k <;> simp [letter] at hletter
    · have hk : k = k' := by
        cases k <;> cases k' <;> simp_all [letter, kind]
      subst hk
      rw [(dataId_group_inj hr).1 h]
      exact .inl rfl
  · rintro (rfl | h)
    · rfl
    · obtain ⟨id, k, k', -, rfl, rfl⟩ := h.entities
      rfl

theorem eq_of_dataId {r s : NodeRef} (hr : r.kind ≠ .dynamicScope) (hkind : r.kind = s.kind)
    (h : r.dataId = s.dataId) : r = s := by
  rcases (dataId_eq_iff hr (by rwa [← hkind])).1 h with heq | hnames
  · exact heq
  · obtain ⟨id, k, k', hne, rfl, rfl⟩ := hnames.entities
    exact absurd hkind hne

end NodeRef

/-! ### Listed nodes -/

namespace Announcements

variable {α : Type} [Traced α] {limit : Int} {as : List α}

theorem nodup_listing : (listing limit as).Nodup := nodup_eraseDups _

/-- Within one listing, a node is found by its data id. -/
theorem find?_dataId_listing {ref : NodeRef} (href : ref ∈ listing limit as)
    (hkind : ref.kind ≠ .dynamicScope) : (listing limit as).find? (·.dataId = ref.dataId) = some ref := by
  apply find?_eq_some_of_unique href (decide_eq_true rfl)
  intro r hr he
  have hsame := (kind_of_mem_listing href).trans (kind_of_mem_listing hr).symm
  exact (NodeRef.eq_of_dataId hkind hsame (of_decide_eq_true he).symm).symm

theorem latest?_of_own_mem_listing {id : Int} {kind : Kind}
    (h : NodeRef.entity ⟨kind, id⟩ ∈ listing limit as) :
    ∃ a, latest? as id = some a ∧ ¬ Crowded limit as (Traced.key a) := by
  obtain ⟨j, a, ha, hnode⟩ := mem_listing.1 h
  unfold nodeOf at hnode
  split at hnode
  · cases hnode
  · next hc =>
    have hid : Traced.id a = id := congrArg EntityRef.id (NodeRef.entity.inj hnode)
    rw [← hid, id_of_latest? ha]
    exact ⟨a, ha, hc⟩

/-- As long as no id comes twice, a member of a crowded group is listed under no own node. -/
theorem own_not_mem_listing (hids : (as.map Traced.id).Nodup) {a : α} (ha : a ∈ as)
    (hc : Crowded limit as (Traced.key a)) (kind : Kind) :
    NodeRef.entity ⟨kind, Traced.id a⟩ ∉ listing limit as := by
  intro h
  obtain ⟨b, hb, hnot⟩ := latest?_of_own_mem_listing h
  obtain rfl := Option.some.inj ((latest?_of_mem hids ha).symm.trans hb)
  exact hnot hc

end Announcements

namespace History

variable {past : History} {r s ref : NodeRef}

theorem kind_of_mem_nodes (h : ref ∈ past.nodes) : ref.kind ≠ .dynamicScope := by
  rw [nodes, List.mem_append] at h
  rcases h with h | h
  · rw [kind_of_mem_listing h]
    decide
  · rw [kind_of_mem_listing h]
    decide

theorem nodup_nodes : past.nodes.Nodup := by
  rw [nodes, List.nodup_append]
  refine ⟨nodup_listing, nodup_listing, ?_⟩
  rintro r hr s hs rfl
  exact absurd ((kind_of_mem_listing hr).symm.trans (kind_of_mem_listing hs)) (by decide)

theorem dataId_eq_iff (hr : r ∈ past.nodes) (hs : s ∈ past.nodes) :
    r.dataId = s.dataId ↔ r = s ∨ r.Namesakes s :=
  NodeRef.dataId_eq_iff (kind_of_mem_nodes hr) (kind_of_mem_nodes hs)

/-- A listed node is found by its data id, unless it belongs to a passive entity that has the id of an
activity with a node of its own. -/
theorem find?_dataId (href : ref ∈ past.nodes)
    (h : ∀ id, ref = .entity ⟨.passiveEntity, id⟩ → NodeRef.entity ⟨.activity, id⟩ ∉ past.nodes) :
    past.nodes.find? (·.dataId = ref.dataId) = some ref := by
  have hkind := kind_of_mem_nodes href
  rw [nodes, List.find?_append]
  rcases List.mem_append.1 href with hactivity | hpassive
  · rw [find?_dataId_listing hactivity hkind, Option.some_or]
  · have hnone : (listing activityThreshold past.activities).find? (·.dataId = ref.dataId) = none := by
      rw [List.find?_eq_none]
      intro r hr
      rw [decide_eq_true_iff]
      intro he
      have hmem : r ∈ past.nodes := List.mem_append_left _ hr
      rcases (dataId_eq_iff hmem href).1 he with rfl | hnames
      · exact absurd ((kind_of_mem_listing hr).symm.trans (kind_of_mem_listing hpassive)) (by decide)
      · obtain ⟨id, k, k', -, rfl, rfl⟩ := hnames.entities
        obtain rfl : k = .activity := kind_of_mem_listing hr
        obtain rfl : k' = .passiveEntity := kind_of_mem_listing hpassive
        exact h id rfl hmem
    rw [hnone, Option.none_or, find?_dataId_listing hpassive hkind]

end History

/-! ### Nodes under their references -/

namespace Population

variable {α : Type} [Traced α] {limit : Int} {as : List α} {p : Population α}

/-- A node has the data id of its reference. -/
theorem Holds.dataId_of_node? (h : p.Holds limit as) {ref : NodeRef} {n : Node α}
    (hn : p.node? ref = some n) : n.dataId = ref.dataId := by
  rcases ref with ⟨kind, id⟩ | ⟨kind, number⟩
  · rw [node?] at hn
    split at hn
    · obtain ⟨x, hx, rfl⟩ := Option.map_eq_some_iff.1 hn
      have he : (id, x) ∈ p.table.entries := (Table.get?_eq_some_iff _ _ _).1 hx
      exact congrArg Identifier.entity (h.id_eq he)
    · cases hn
  · rw [node?] at hn
    split at hn
    · next hkind =>
      obtain ⟨g, hg, hnode⟩ := Option.bind_eq_some_iff.1 hn
      obtain ⟨place, -, rfl⟩ := Option.map_eq_some_iff.1 hnode
      have hid : g.id = number := by simpa using List.find?_some hg
      rw [NodeRef.dataId, hkind, ← hid, Node.dataId]
    · cases hn

end Population

namespace View

variable {v : View} {past : History}

theorem Holds.dataId_of_node? (h : v.Holds past) {ref : NodeRef} {n : AnyNode} {s : NodeSummary}
    (hn : v.node? ref = some n) (hs : n.summary? = some s) : s.dataId = ref.dataId := by
  rw [node?_eq_or, Option.or_eq_some_iff, Option.map_eq_some_iff, Option.map_eq_some_iff] at hn
  rcases hn with ⟨x, hx, rfl⟩ | ⟨-, x, hx, rfl⟩
  · obtain ⟨a, -, rfl⟩ := Option.map_eq_some_iff.1 hs
    exact h.activities.dataId_of_node? hx
  · obtain ⟨a, -, rfl⟩ := Option.map_eq_some_iff.1 hs
    exact h.passives.dataId_of_node? hx

/-- A node is shown with the data id of its reference. -/
theorem Holds.dataId_of_summary (h : v.Holds past) {ref : NodeRef} {s : NodeSummary}
    (hs : v.summary ref = .ok s) : s.dataId = ref.dataId := by
  obtain ⟨n, hn, hs⟩ := summary_eq_ok_iff.1 hs
  exact h.dataId_of_node? hn hs

end View

end TraceGraph
