import TraceGraph.Node
import TraceGraph.Proofs.Sequence

/-! All announcements of one kind, oldest first, and what the graph owes to them. Ids and keys are known
in the order in which they first came, the last announcement of an id counts, and a key is shared by all
announcements that were ever made under it, also by those that a later one of the same id replaced. -/

namespace TraceGraph

/-- What an announcement says for good. Only the running flag of an activity changes later. -/
structure Traits where
  id : Int
  key : String
  type : Int
  creator? : Option Int
  deriving DecidableEq

def Traced.traits {α : Type} [Traced α] (a : α) : Traits :=
  ⟨Traced.id a, Traced.key a, Traced.type a, Traced.creator? a⟩

namespace Announcements

open Sequence

variable {α : Type} [Traced α]

def ids (as : List α) : List Int := (as.map Traced.id).eraseDups

def keys (as : List α) : List String := (as.map Traced.key).eraseDups

/-- The last announcement of an id. -/
def latest? (as : List α) (id : Int) : Option α := as.reverse.find? (Traced.id · = id)

/-- The announcements under a key. -/
def sharing (as : List α) (key : String) : List α := as.filter (Traced.key · = key)

/-- Groups are numbered from 0 in the order in which their keys came. -/
def number (as : List α) (key : String) : Nat := (keys as).idxOf key

/-- A key is crowded if more announcements than the threshold share it. -/
def Crowded (threshold : Int) (as : List α) (key : String) : Prop :=
  threshold < (sharing as key).length

instance (threshold : Int) (as : List α) (key : String) : Decidable (Crowded threshold as key) :=
  inferInstanceAs (Decidable (threshold < _))

/-- The node that stands for an announcement: that of its group if its key is crowded, or else its own. -/
def nodeOf (threshold : Int) (as : List α) (a : α) : NodeRef :=
  if Crowded threshold as (Traced.key a) then .group (Traced.kind α) (number as (Traced.key a))
  else .entity ⟨Traced.kind α, Traced.id a⟩

/-- The node that stands for an id, by its last announcement. -/
def standIn? (threshold : Int) (as : List α) (id : Int) : Option NodeRef :=
  (latest? as id).map (nodeOf threshold as)

/-- The nodes that stand for all ids, each once. -/
def listing (threshold : Int) (as : List α) : List NodeRef :=
  ((ids as).filterMap (standIn? threshold as)).eraseDups

/-! ### One more announcement -/

theorem ids_snoc (as : List α) (a : α) :
    ids (as ++ [a]) = if Traced.id a ∈ ids as then ids as else ids as ++ [Traced.id a] := by
  unfold ids
  rw [List.map_append, List.map_singleton, eraseDups_snoc]
  simp only [List.mem_eraseDups]

theorem keys_snoc (as : List α) (a : α) :
    keys (as ++ [a]) = if Traced.key a ∈ keys as then keys as else keys as ++ [Traced.key a] := by
  unfold keys
  rw [List.map_append, List.map_singleton, eraseDups_snoc]
  simp only [List.mem_eraseDups]

theorem latest?_snoc (as : List α) (a : α) (id : Int) :
    latest? (as ++ [a]) id = if id = Traced.id a then some a else latest? as id := by
  unfold latest?
  rw [List.reverse_append, List.reverse_singleton, List.singleton_append, List.find?_cons]
  by_cases h : Traced.id a = id
  · simp [h]
  · simp [h, Ne.symm h]

theorem sharing_snoc (as : List α) (a : α) (key : String) :
    sharing (as ++ [a]) key = if key = Traced.key a then sharing as key ++ [a] else sharing as key := by
  unfold sharing
  rw [List.filter_append]
  by_cases h : Traced.key a = key
  · simp [h]
  · simp [h, Ne.symm h]

theorem number_snoc_of_mem {as : List α} {key : String} (h : key ∈ keys as) (a : α) :
    number (as ++ [a]) key = number as key := by
  unfold number
  rw [keys_snoc]
  split
  · rfl
  · exact List.idxOf_append_of_mem h

theorem number_snoc_self {as : List α} {a : α} (h : Traced.key a ∉ keys as) :
    number (as ++ [a]) (Traced.key a) = (keys as).length := by
  unfold number
  rw [keys_snoc, if_neg h, List.idxOf_append_of_notMem h, List.idxOf_cons_self, Nat.add_zero]

/-! ### Ids and keys -/

theorem mem_ids {as : List α} {id : Int} : id ∈ ids as ↔ ∃ a ∈ as, Traced.id a = id := by
  simp [ids]

theorem mem_keys {as : List α} {key : String} : key ∈ keys as ↔ ∃ a ∈ as, Traced.key a = key := by
  simp [keys]

theorem latest?_eq_none_iff {as : List α} {id : Int} : latest? as id = none ↔ id ∉ ids as := by
  simp [latest?, mem_ids]

theorem latest?_mem {as : List α} {id : Int} {a : α} (h : latest? as id = some a) : a ∈ as :=
  List.mem_reverse.1 (List.mem_of_find?_eq_some h)

theorem id_of_latest? {as : List α} {id : Int} {a : α} (h : latest? as id = some a) :
    Traced.id a = id := by
  simpa using List.find?_some h

theorem latest?_of_mem_ids {as : List α} {id : Int} (h : id ∈ ids as) :
    ∃ a, latest? as id = some a := by
  cases hl : latest? as id with
  | none => exact absurd h (latest?_eq_none_iff.1 hl)
  | some a => exact ⟨a, rfl⟩

theorem standIn?_of_mem_ids (threshold : Int) {as : List α} {id : Int} (h : id ∈ ids as) :
    ∃ ref, standIn? threshold as id = some ref := by
  obtain ⟨a, ha⟩ := latest?_of_mem_ids h
  exact ⟨nodeOf threshold as a, by rw [standIn?, ha, Option.map_some]⟩

/-- As long as no id comes twice, an announcement is the last of its id. -/
theorem latest?_of_mem {as : List α} (hids : (as.map Traced.id).Nodup) {a : α} (ha : a ∈ as) :
    latest? as (Traced.id a) = some a := by
  obtain ⟨b, hb⟩ := latest?_of_mem_ids (mem_ids.2 ⟨a, ha, rfl⟩)
  rw [hb, List.inj_on_of_nodup_map hids (latest?_mem hb) ha (id_of_latest? hb)]

/-- Keys are numbered apart. -/
theorem number_inj {as : List α} {key key' : String} (h : key ∈ keys as)
    (he : number as key = number as key') : key = key' := by
  exact (List.idxOf_inj h).1 he

end Announcements

end TraceGraph
