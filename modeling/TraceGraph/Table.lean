/-! A finite map that remembers the order in which its keys first came. Setting a key that is present
replaces its value where it stands; setting a new one puts it at the end. No key stands twice. -/

namespace TraceGraph

variable {κ ν : Type}

structure Table (κ ν : Type) where
  entries : List (κ × ν)
  nodup : (entries.map Prod.fst).Nodup

namespace Table

theorem ext {s t : Table κ ν} (h : s.entries = t.entries) : s = t := by
  cases s; cases t; cases h; rfl

def empty : Table κ ν := ⟨[], by simp⟩

instance : Inhabited (Table κ ν) := ⟨empty⟩

def keys (t : Table κ ν) : List κ := t.entries.map Prod.fst

def values (t : Table κ ν) : List ν := t.entries.map Prod.snd

def size (t : Table κ ν) : Nat := t.entries.length

@[simp] theorem entries_empty : (empty : Table κ ν).entries = [] := rfl

@[simp] theorem keys_empty : (empty : Table κ ν).keys = [] := rfl

variable [DecidableEq κ]

def get? (t : Table κ ν) (k : κ) : Option ν := (t.entries.find? (·.1 = k)).map Prod.snd

/-- The entries after key `k` is set to `v`. -/
def put (k : κ) (v : ν) : List (κ × ν) → List (κ × ν)
  | [] => [(k, v)]
  | e :: es => if e.1 = k then (k, v) :: es else e :: put k v es

theorem keys_put (k : κ) (v : ν) (es : List (κ × ν)) :
    (put k v es).map Prod.fst =
      if k ∈ es.map Prod.fst then es.map Prod.fst else es.map Prod.fst ++ [k] := by
  induction es with
  | nil => simp [put]
  | cons e es ih =>
    by_cases h : e.1 = k
    · simp [put, h]
    · have h' : k ≠ e.1 := fun hk => h hk.symm
      simp only [put, h, if_false, List.map_cons, ih, List.mem_cons, h', false_or]
      split <;> simp

theorem nodup_put (k : κ) (v : ν) {es : List (κ × ν)} (h : (es.map Prod.fst).Nodup) :
    ((put k v es).map Prod.fst).Nodup := by
  rw [keys_put]
  split
  · exact h
  · next hk => exact List.nodup_append.2 ⟨h, by simp, by rintro a ha b hb rfl; simp_all⟩

def set (t : Table κ ν) (k : κ) (v : ν) : Table κ ν := ⟨put k v t.entries, nodup_put k v t.nodup⟩

/-- The entry with the value of key `k` changed, others as they are. -/
def change (k : κ) (f : ν → ν) (e : κ × ν) : κ × ν := if e.1 = k then (e.1, f e.2) else e

theorem keys_change (k : κ) (f : ν → ν) (es : List (κ × ν)) :
    (es.map (change k f)).map Prod.fst = es.map Prod.fst := by
  rw [List.map_map]
  exact List.map_congr_left fun e _ => by simp only [Function.comp, change]; split <;> rfl

/-- Change the value of key `k` if it is present. -/
def modify (t : Table κ ν) (k : κ) (f : ν → ν) : Table κ ν :=
  ⟨t.entries.map (change k f), by rw [keys_change]; exact t.nodup⟩

def contains (t : Table κ ν) (k : κ) : Bool := k ∈ t.keys

/-- Later pairs replace the values of earlier ones with the same key. -/
def ofList (es : List (κ × ν)) : Table κ ν := es.foldl (fun t e => t.set e.1 e.2) empty

theorem keys_set (t : Table κ ν) (k : κ) (v : ν) :
    (t.set k v).keys = if k ∈ t.keys then t.keys else t.keys ++ [k] := keys_put k v t.entries

theorem find?_put (k : κ) (v : ν) (es : List (κ × ν)) (j : κ) :
    ((put k v es).find? (·.1 = j)).map Prod.snd =
      if j = k then some v else (es.find? (·.1 = j)).map Prod.snd := by
  induction es with
  | nil => by_cases h : j = k <;> simp [put, h, eq_comm]
  | cons e es ih =>
    simp only [put]
    by_cases he : e.1 = k
    · by_cases h : j = k
      · simp [he, h]
      · have h' : ¬ k = j := fun hk => h hk.symm
        simp [he, h, h']
    · by_cases hj : e.1 = j
      · have h' : ¬ j = k := fun hk => he (hj.trans hk)
        simp [hj, h']
      · simp [he, hj, ih]

theorem get?_set (t : Table κ ν) (k : κ) (v : ν) (j : κ) :
    (t.set k v).get? j = if j = k then some v else t.get? j := find?_put k v t.entries j

@[simp] theorem get?_set_self (t : Table κ ν) (k : κ) (v : ν) : (t.set k v).get? k = some v := by
  simp [get?_set]

theorem contains_eq_true_iff (t : Table κ ν) (k : κ) : t.contains k = true ↔ k ∈ t.keys := by
  simp [contains]

theorem get?_eq_none_iff (t : Table κ ν) (k : κ) : t.get? k = none ↔ k ∉ t.keys := by
  simp only [get?, keys, Option.map_eq_none_iff, List.find?_eq_none, decide_eq_true_eq, List.mem_map,
    not_exists, not_and]

@[simp] theorem keys_modify (t : Table κ ν) (k : κ) (f : ν → ν) : (t.modify k f).keys = t.keys :=
  keys_change k f t.entries

theorem find?_change (k : κ) (f : ν → ν) (es : List (κ × ν)) (j : κ) :
    ((es.map (change k f)).find? (·.1 = j)).map Prod.snd =
      ((es.find? (·.1 = j)).map Prod.snd).map fun v => if j = k then f v else v := by
  induction es with
  | nil => rfl
  | cons e es ih =>
    have hkey : (change k f e).1 = e.1 := by unfold change; split <;> rfl
    rw [List.map_cons, List.find?_cons, List.find?_cons, hkey]
    by_cases hj : e.1 = j
    · subst hj
      by_cases hk : e.1 = k <;> simp [change, hk]
    · simp only [hj, decide_false]
      exact ih

theorem get?_modify (t : Table κ ν) (k : κ) (f : ν → ν) (j : κ) :
    (t.modify k f).get? j = (t.get? j).map fun v => if j = k then f v else v :=
  find?_change k f t.entries j

@[simp] theorem get?_empty (k : κ) : (empty : Table κ ν).get? k = none := rfl

end Table

end TraceGraph
