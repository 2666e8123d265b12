import TraceGraph.Table
import Mathlib.Data.List.Nodup

/-! Tables through look-up: an entry stands in a table exactly if its key is looked up as its value. A
change of values that leaves the keys alone is one pass over the entries, and what a table is changed to
at one key after the other is such a pass. -/

namespace TraceGraph.Table

variable {κ ν μ ξ : Type}

/-! ### Changing all values -/

/-- The same keys with values computed from the old entries. -/
def mapValues (f : κ → ν → μ) (t : Table κ ν) : Table κ μ :=
  ⟨t.entries.map fun e => (e.1, f e.1 e.2), by
    rw [List.map_map]
    exact t.nodup⟩

@[simp] theorem keys_mapValues (f : κ → ν → μ) (t : Table κ ν) : (t.mapValues f).keys = t.keys := by
  simp [keys, mapValues]

@[simp] theorem size_mapValues (f : κ → ν → μ) (t : Table κ ν) : (t.mapValues f).size = t.size := by
  simp [size, mapValues]

theorem mapValues_mapValues (f : κ → ν → μ) (g : κ → μ → ξ) (t : Table κ ν) :
    (t.mapValues f).mapValues g = t.mapValues fun k v => g k (f k v) := by
  apply Table.ext
  simp [mapValues]

theorem mapValues_congr {f g : κ → ν → μ} {t : Table κ ν}
    (h : ∀ e ∈ t.entries, f e.1 e.2 = g e.1 e.2) : t.mapValues f = t.mapValues g := by
  apply Table.ext
  apply List.map_congr_left
  intro e he
  rw [h e he]

theorem mapValues_eq_self {f : κ → ν → ν} {t : Table κ ν} (h : ∀ e ∈ t.entries, f e.1 e.2 = e.2) :
    t.mapValues f = t := by
  apply Table.ext
  have hmap : t.entries.map (fun e => (e.1, f e.1 e.2)) = t.entries.map id := by
    apply List.map_congr_left
    intro e he
    rw [h e he, id]
  rw [List.map_id] at hmap
  exact hmap

theorem size_eq_length_keys (t : Table κ ν) : t.size = t.keys.length := by simp [size, keys]

variable [DecidableEq κ]

theorem modify_eq_mapValues (t : Table κ ν) (k : κ) (f : ν → ν) :
    t.modify k f = t.mapValues fun j v => if j = k then f v else v := by
  apply Table.ext
  apply List.map_congr_left
  intro e _
  unfold change
  by_cases h : e.1 = k <;> simp [h]

/-! ### Entries and look-up -/

theorem find?_eq_some_iff_mem {es : List (κ × ν)} (h : (es.map Prod.fst).Nodup) (k : κ) (v : ν) :
    (es.find? (·.1 = k)).map Prod.snd = some v ↔ (k, v) ∈ es := by
  induction es with
  | nil => simp
  | cons e es ih =>
    rw [List.map_cons, List.nodup_cons] at h
    rw [List.find?_cons, List.mem_cons]
    by_cases hk : e.1 = k
    · simp only [hk, decide_true, Option.map_some, Option.some.injEq]
      constructor
      · rintro rfl
        exact .inl (by rw [← hk])
      · rintro (he | he)
        · rw [← he]
        · exact absurd (List.mem_map_of_mem (f := Prod.fst) he) (by rw [← hk]; exact h.1)
    · have hne : (k, v) ≠ e := fun he => hk (by rw [← he])
      simp only [hk, decide_false, hne, false_or]
      exact ih h.2

theorem get?_eq_some_iff (t : Table κ ν) (k : κ) (v : ν) : t.get? k = some v ↔ (k, v) ∈ t.entries :=
  find?_eq_some_iff_mem t.nodup k v

theorem get?_of_mem {t : Table κ ν} {e : κ × ν} (h : e ∈ t.entries) : t.get? e.1 = some e.2 :=
  (t.get?_eq_some_iff e.1 e.2).2 h

theorem get?_eq_some_of_mem_keys {t : Table κ ν} {k : κ} (h : k ∈ t.keys) : ∃ v, t.get? k = some v := by
  obtain ⟨e, he, rfl⟩ := List.mem_map.1 h
  exact ⟨e.2, get?_of_mem he⟩

theorem mem_keys_of_get? {t : Table κ ν} {k : κ} {v : ν} (h : t.get? k = some v) : k ∈ t.keys :=
  List.mem_map_of_mem (f := Prod.fst) ((t.get?_eq_some_iff k v).1 h)

theorem get?_mapValues (f : κ → ν → μ) (t : Table κ ν) (k : κ) :
    (t.mapValues f).get? k = (t.get? k).map (f k) := by
  cases h : t.get? k with
  | none =>
    rw [get?_eq_none_iff] at h
    rw [Option.map_none, get?_eq_none_iff, keys_mapValues]
    exact h
  | some v =>
    rw [Option.map_some, get?_eq_some_iff]
    rw [get?_eq_some_iff] at h
    exact List.mem_map.2 ⟨(k, v), h, rfl⟩

/-- Changing a value to itself changes nothing. -/
theorem modify_eq_self {t : Table κ ν} {k : κ} {f : ν → ν} (h : ∀ v, t.get? k = some v → f v = v) :
    t.modify k f = t := by
  rw [modify_eq_mapValues]
  apply mapValues_eq_self
  intro e he
  split
  · next hk =>
    subst hk
    exact h e.2 (get?_of_mem he)
  · rfl

/-! ### Single entries -/

theorem put_of_not_mem {k : κ} {es : List (κ × ν)} (h : k ∉ es.map Prod.fst) (v : ν) (rest : List (κ × ν)) :
    put k v (es ++ rest) = es ++ put k v rest := by
  induction es with
  | nil => rfl
  | cons e es ih =>
    rw [List.map_cons, List.mem_cons, not_or] at h
    rw [List.cons_append, put, if_neg (Ne.symm h.1), ih h.2, List.cons_append]

/-- A key that is present has one entry, which is set where it stands. -/
theorem set_split {t : Table κ ν} {k : κ} {v : ν} (h : t.get? k = some v) (w : ν) :
    ∃ before after, t.entries = before ++ (k, v) :: after ∧ (t.set k w).entries = before ++ (k, w) :: after := by
  obtain ⟨before, after, hsplit⟩ := List.append_of_mem ((get?_eq_some_iff t k v).1 h)
  have hnodup := t.nodup
  rw [hsplit, List.map_append, List.map_cons, List.nodup_append] at hnodup
  have hk : k ∉ before.map Prod.fst := fun hmem => hnodup.2.2 k hmem k List.mem_cons_self rfl
  have hset : (t.set k w).entries = put k w t.entries := rfl
  refine ⟨before, after, hsplit, ?_⟩
  rw [hset, hsplit, put_of_not_mem hk, put, if_pos rfl]

theorem entries_set_of_not_mem {t : Table κ ν} {k : κ} (h : k ∉ t.keys) (w : ν) :
    (t.set k w).entries = t.entries ++ [(k, w)] := by
  have hput := put_of_not_mem h w []
  rwa [List.append_nil] at hput

theorem entries_foldl_set {es : List (κ × ν)} {t : Table κ ν} (h : (t.keys ++ es.map Prod.fst).Nodup) :
    (es.foldl (fun t e => t.set e.1 e.2) t).entries = t.entries ++ es := by
  induction es generalizing t with
  | nil => rw [List.foldl_nil, List.append_nil]
  | cons e es ih =>
    have he : e.1 ∉ t.keys := fun hmem =>
      (List.nodup_append.1 h).2.2 _ hmem e.1 List.mem_cons_self rfl
    have hkeys : (t.set e.1 e.2).keys = t.keys ++ [e.1] := by
      rw [keys_set, if_neg he]
    have hset : (t.set e.1 e.2).entries = t.entries ++ [e] := entries_set_of_not_mem he e.2
    rw [List.foldl_cons, ih, hset, List.append_assoc, List.singleton_append]
    rwa [hkeys, List.append_assoc, List.singleton_append]

/-- A list of entries under distinct keys is a table as it stands. -/
theorem entries_ofList {es : List (κ × ν)} (h : (es.map Prod.fst).Nodup) : (ofList es).entries = es :=
  entries_foldl_set h

/-- Changing the value of a key that is present sets it. -/
theorem modify_eq_set {t : Table κ ν} {k : κ} {v : ν} (h : t.get? k = some v) (f : ν → ν) :
    t.modify k f = t.set k (f v) := by
  apply ext
  obtain ⟨before, after, hsplit, hset⟩ := set_split h (f v)
  have hnodup := t.nodup
  rw [hsplit, List.map_append, List.map_cons, List.nodup_append, List.nodup_cons] at hnodup
  obtain ⟨-, ⟨hafter, -⟩, hbefore⟩ := hnodup
  have hother (es : List (κ × ν)) (hes : k ∉ es.map Prod.fst) : es.map (change k f) = es := by
    have hid : es.map (change k f) = es.map id := by
      apply List.map_congr_left
      intro e he
      exact if_neg fun hek => hes (by rw [← hek]; exact List.mem_map_of_mem he)
    rw [hid, List.map_id]
  rw [hset, modify]
  simp only [hsplit, List.map_append, List.map_cons]
  rw [hother before fun hmem => hbefore k hmem k List.mem_cons_self rfl, hother after hafter, change,
    if_pos rfl]

end TraceGraph.Table
