import Mathlib.Data.List.Forall2
import Mathlib.Data.List.Induction
import Mathlib.Data.List.Nodup

/-! Facts about lists that passes over tables rest on: what becomes of the first occurrences when an
element is put at the end, how a list is made up of the elements of each image, and what a pass that may
break off yields when it does not. -/

namespace TraceGraph.Sequence

variable {α β γ ε σ : Type}

/-! ### First occurrences -/

section
variable [DecidableEq α]

theorem eraseDups_snoc (as : List α) (a : α) :
    (as ++ [a]).eraseDups = if a ∈ as then as.eraseDups else as.eraseDups ++ [a] := by
  rw [List.eraseDups_append, List.cons_removeAll]
  by_cases h : a ∈ as <;> simp [h, List.eraseDups_cons]

theorem nodup_eraseDups (as : List α) : as.eraseDups.Nodup := by
  induction as using List.reverseRecOn with
  | nil => simp
  | append_singleton as a ih =>
    rw [eraseDups_snoc]
    split
    · exact ih
    · next h =>
      rw [List.nodup_append]
      refine ⟨ih, by simp, ?_⟩
      intro b hb c hc
      rw [List.mem_singleton] at hc
      subst hc
      rintro rfl
      exact h (List.mem_eraseDups.1 hb)

theorem eraseDups_eq_self {as : List α} (h : as.Nodup) : as.eraseDups = as := by
  induction as using List.reverseRecOn with
  | nil => simp
  | append_singleton as a ih =>
    rw [List.nodup_append] at h
    have ha : a ∉ as := fun hm => h.2.2 a hm a (by simp) rfl
    rw [eraseDups_snoc, if_neg ha, ih h.1]

/-- Of elements with the same image the first stands for all: those that come first, taken in the order
in which the images came, are in their own order. -/
theorem firsts_sublist (f : β → α) (bs : List β) :
    ((bs.map f).eraseDups.filterMap fun a => bs.find? (f · = a)).Sublist bs := by
  induction bs using List.reverseRecOn with
  | nil => simp
  | append_singleton bs b ih =>
    have hold : ∀ a ∈ (bs.map f).eraseDups,
        (bs ++ [b]).find? (f · = a) = bs.find? (f · = a) := by
      intro a ha
      obtain ⟨c, hc, hca⟩ := List.mem_map.1 (List.mem_eraseDups.1 ha)
      rw [List.find?_append]
      cases h : bs.find? (f · = a) with
      | some d => rfl
      | none =>
        rw [List.find?_eq_none] at h
        exact absurd hca (by simpa using h c hc)
    rw [List.map_append, List.map_singleton, eraseDups_snoc]
    split
    · rw [List.filterMap_congr hold]
      exact ih.trans (List.sublist_append_left _ _)
    · next hb =>
      have hnone : bs.find? (f · = f b) = none := by
        rw [List.find?_eq_none]
        intro c hc
        simpa using fun he => hb (List.mem_map.2 ⟨c, hc, he⟩)
      rw [List.filterMap_append, List.filterMap_congr hold]
      refine List.Sublist.append ih ?_
      simp [List.find?_append, hnone]

/-- A list is made up of the elements of each image. -/
theorem fibers_perm (f : β → α) {vs : List α} (hvs : vs.Nodup) (bs : List β) (h : ∀ b ∈ bs, f b ∈ vs) :
    (vs.flatMap fun a => bs.filter (f · = a)).Perm bs := by
  induction vs generalizing bs with
  | nil =>
    have hnil : bs = [] := List.eq_nil_iff_forall_not_mem.2 fun b hb => List.not_mem_nil (h b hb)
    rw [hnil]
    exact List.Perm.refl []
  | cons v vs ih =>
    obtain ⟨hv, hnodup⟩ := List.nodup_cons.1 hvs
    have hrest := ih hnodup (bs.filter fun b => !decide (f b = v)) (by
      intro b hb
      rw [List.mem_filter] at hb
      rcases List.mem_cons.1 (h b hb.1) with hbv | hbv
      · simp [hbv] at hb
      · exact hbv)
    -- an element of another image is not among those of the first
    have hfibers : vs.flatMap (fun a => (bs.filter fun b => !decide (f b = v)).filter (f · = a)) =
        vs.flatMap fun a => bs.filter (f · = a) := by
      apply List.flatMap_congr
      intro a ha
      rw [List.filter_filter]
      apply List.filter_congr
      intro b _
      by_cases hb : f b = a
      · have hne : f b ≠ v := fun he => hv (by rwa [← he, hb])
        simp [hb, hb ▸ hne]
      · simp [hb]
    rw [hfibers] at hrest
    rw [List.flatMap_cons]
    exact (hrest.append_left _).trans (List.filter_append_perm _ bs)

end

/-! ### Partial images -/

theorem map_filterMap_eq {f : α → Option β} {g : β → γ} {k : α → γ} {as : List α}
    (h : ∀ a ∈ as, (f a).map g = some (k a)) : (as.filterMap f).map g = as.map k := by
  rw [List.map_filterMap, ← List.filterMap_eq_map]
  exact List.filterMap_congr h

/-- A test that only the image of one element passes singles that image out. -/
theorem filter_filterMap_eq_singleton {f : α → Option β} (test : β → Bool) {as : List α}
    (hnodup : as.Nodup) {a : α} {b : β} (ha : a ∈ as) (hb : f a = some b)
    (h : ∀ a' ∈ as, ∀ b', f a' = some b' → (test b' = true ↔ a' = a)) :
    (as.filterMap f).filter test = [b] := by
  obtain ⟨before, after, rfl⟩ := List.append_of_mem ha
  have hnone : ∀ cs : List α, (∀ c ∈ cs, c ∈ before ++ a :: after) → a ∉ cs →
      (cs.filterMap f).filter test = [] := by
    intro cs hcs hnot
    rw [List.filter_eq_nil_iff]
    intro b' hb' htest
    obtain ⟨c, hc, hcb⟩ := List.mem_filterMap.1 hb'
    rw [(h c (hcs c hc) b' hcb).1 htest] at hc
    exact hnot hc
  have htest : test b = true := (h a ha b hb).2 rfl
  rw [List.nodup_append, List.nodup_cons] at hnodup
  obtain ⟨-, ⟨hafter, -⟩, hdisjoint⟩ := hnodup
  have hbefore : a ∉ before := fun hm => hdisjoint a hm a List.mem_cons_self rfl
  rw [List.filterMap_append, List.filterMap_cons_some hb, List.filter_append,
    List.filter_cons_of_pos htest, hnone before (fun c hc => List.mem_append_left _ hc) hbefore,
    hnone after (fun c hc => List.mem_append_right _ (List.mem_cons_of_mem a hc)) hafter]
  rfl

theorem find?_eq_some_of_unique {test : α → Bool} {as : List α} {a : α} (ha : a ∈ as) (htest : test a = true)
    (h : ∀ b ∈ as, test b = true → b = a) : as.find? test = some a := by
  obtain ⟨b, hb⟩ := List.find?_isSome.2 ⟨a, ha, htest⟩ |> Option.isSome_iff_exists.1
  rw [hb, h b (List.mem_of_find?_eq_some hb) (List.find?_some hb)]

/-! ### Passes that may break off -/

/-- What succeeds in two steps succeeds in the first. -/
theorem bind_eq_ok {x : Except ε α} {f : α → Except ε β} {b : β} (h : (x >>= f) = .ok b) :
    ∃ a, x = .ok a ∧ f a = .ok b := by
  cases x with
  | error e => cases h
  | ok a => exact ⟨a, rfl, h⟩

theorem bind_eq_ok_iff {x : Except ε α} {f : α → Except ε β} {b : β} :
    (x >>= f) = .ok b ↔ ∃ a, x = .ok a ∧ f a = .ok b := by
  refine ⟨bind_eq_ok, ?_⟩
  rintro ⟨a, rfl, h⟩
  exact h

theorem mapError_eq_ok_iff {ε' : Type} {x : Except ε α} {f : ε → ε'} {a : α} :
    x.mapError f = .ok a ↔ x = .ok a := by
  cases x <;> simp [Except.mapError]

theorem isOk_iff_exists {x : Except ε α} : x.isOk ↔ ∃ a, x = .ok a := by
  cases x <;> simp [Except.isOk, Except.toBool]

/-- What fails in two steps fails in the first or in the second. -/
theorem bind_eq_error {x : Except ε α} {f : α → Except ε β} {e : ε} (h : (x >>= f) = .error e) :
    x = .error e ∨ ∃ a, x = .ok a ∧ f a = .error e := by
  cases x with
  | error e' => exact .inl (congrArg Except.error (Except.error.inj h))
  | ok a => exact .inr ⟨a, rfl, h⟩

theorem mapM_eq_ok {f : α → Except ε β} {g : α → β} {as : List α} (h : ∀ a ∈ as, f a = .ok (g a)) :
    as.mapM f = .ok (as.map g) := by
  induction as with
  | nil => rfl
  | cons a as ih =>
    rw [List.mapM_cons, h a (by simp), ih fun b hb => h b (by simp [hb])]
    rfl

/-- A pass yields what its steps yield. -/
theorem mapM_eq_ok_iff {f : α → Except ε β} {as : List α} {bs : List β} :
    as.mapM f = .ok bs ↔ List.Forall₂ (fun a b => f a = .ok b) as bs := by
  constructor
  · intro h
    induction as generalizing bs with
    | nil =>
      obtain rfl := Except.ok.inj h
      exact .nil
    | cons a as ih =>
      rw [List.mapM_cons] at h
      obtain ⟨b, ha, h⟩ := bind_eq_ok h
      obtain ⟨cs, has, h⟩ := bind_eq_ok h
      obtain rfl := Except.ok.inj h
      exact .cons ha (ih has)
  · intro h
    induction h with
    | nil => rfl
    | cons ha _ ih =>
      rw [List.mapM_cons, ha, ih]
      rfl

/-- What a pass yields is what one of its steps yields. -/
theorem exists_of_mem_mapM {f : α → Except ε β} {as : List α} {bs : List β} (hbs : as.mapM f = .ok bs) {b : β}
    (hb : b ∈ bs) : ∃ a ∈ as, f a = .ok b := by
  rw [mapM_eq_ok_iff] at hbs
  induction hbs with
  | nil => cases hb
  | cons hstep _ ih =>
    rcases List.mem_cons.1 hb with rfl | hb
    · exact ⟨_, List.mem_cons_self, hstep⟩
    · obtain ⟨a, ha, hfa⟩ := ih hb
      exact ⟨a, List.mem_cons_of_mem _ ha, hfa⟩

theorem mapM_congr {f g : α → Except ε β} {as : List α} (h : ∀ a ∈ as, f a = g a) :
    as.mapM f = as.mapM g := by
  induction as with
  | nil => rfl
  | cons a as ih => rw [List.mapM_cons, List.mapM_cons, h a (by simp), ih fun b hb => h b (by simp [hb])]

/-- Two passes that yield matching results at each step yield lists that match. -/
theorem mapM_match {f g : α → Except ε β} {k : β → γ} (as : List α)
    (h : ∀ a ∈ as, ∃ b c, f a = .ok b ∧ g a = .ok c ∧ k b = k c) :
    ∃ bs cs, as.mapM f = .ok bs ∧ as.mapM g = .ok cs ∧ bs.map k = cs.map k := by
  induction as with
  | nil => exact ⟨[], [], rfl, rfl, rfl⟩
  | cons a as ih =>
    obtain ⟨b, c, hb, hc, hk⟩ := h a (by simp)
    obtain ⟨bs, cs, hbs, hcs, hks⟩ := ih fun d hd => h d (by simp [hd])
    refine ⟨b :: bs, c :: cs, ?_, ?_, ?_⟩
    · rw [List.mapM_cons, hb, hbs]
      rfl
    · rw [List.mapM_cons, hc, hcs]
      rfl
    · rw [List.map_cons, List.map_cons, hk, hks]

theorem exists_mapM_eq_ok {f : α → Except ε β} {as : List α} (h : ∀ a ∈ as, ∃ b, f a = .ok b) :
    ∃ bs, as.mapM f = .ok bs := by
  obtain ⟨bs, -, hbs, -, -⟩ := mapM_match (f := f) (g := f) (k := id) as fun a ha => by
    obtain ⟨b, hb⟩ := h a ha
    exact ⟨b, b, hb, hb, rfl⟩
  exact ⟨bs, hbs⟩

/-- What is read off the results of a pass can be read off what they are results of. -/
theorem map_of_mapM_eq_ok {f : α → Except ε β} {g : β → γ} {k : α → γ}
    (h : ∀ a b, f a = .ok b → g b = k a) {as : List α} {bs : List β} (hbs : as.mapM f = .ok bs) :
    bs.map g = as.map k := by
  rw [mapM_eq_ok_iff] at hbs
  induction hbs with
  | nil => rfl
  | cons hb _ ih => rw [List.map_cons, List.map_cons, h _ _ hb, ih]

theorem foldlM_eq_ok {f : σ → α → Except ε σ} {g : σ → α → σ} {as : List α}
    (h : ∀ a ∈ as, ∀ s, f s a = .ok (g s a)) (s : σ) : as.foldlM f s = .ok (as.foldl g s) := by
  induction as generalizing s with
  | nil => rfl
  | cons a as ih =>
    rw [List.foldlM_cons, h a (by simp) s]
    exact ih (fun b hb => h b (by simp [hb])) (g s a)

/-- A pass that fails does so at one of its elements. -/
theorem foldlM_eq_error {f : σ → α → Except ε σ} {as : List α} {s : σ} {e : ε}
    (h : as.foldlM f s = .error e) : ∃ a ∈ as, ∃ t, f t a = .error e := by
  induction as generalizing s with
  | nil => cases h
  | cons a as ih =>
    rw [List.foldlM_cons] at h
    rcases bind_eq_error h with h | ⟨t, -, h⟩
    · exact ⟨a, by simp, s, h⟩
    · obtain ⟨b, hb, u, hu⟩ := ih h
      exact ⟨b, by simp [hb], u, hu⟩

theorem mapM_eq_error {f : α → Except ε β} {as : List α} {e : ε} (h : as.mapM f = .error e) :
    ∃ a ∈ as, f a = .error e := by
  induction as with
  | nil => cases h
  | cons a as ih =>
    rw [List.mapM_cons] at h
    rcases bind_eq_error h with h | ⟨b, -, h⟩
    · exact ⟨a, by simp, h⟩
    · rcases bind_eq_error h with h | ⟨bs, -, h⟩
      · obtain ⟨c, hc, hfc⟩ := ih h
        exact ⟨c, by simp [hc], hfc⟩
      · cases h

theorem forM_eq_ok_iff (f : α → Except ε Unit) (as : List α) :
    forM as f = .ok () ↔ ∀ a ∈ as, f a = .ok () := by
  induction as with
  | nil => simp [pure, Except.pure]
  | cons a as ih =>
    rw [List.forM_cons, List.forall_mem_cons]
    cases h : f a with
    | error e => simp [bind, Except.bind]
    | ok => simpa [bind, Except.bind] using ih

/-- A pass breaks off at the first element that is refused. -/
theorem forM_eq_error_iff (f : α → Except ε Unit) (as : List α) (e : ε) :
    forM as f = .error e ↔
      ∃ before a after, as = before ++ a :: after ∧ (∀ b ∈ before, f b = .ok ()) ∧ f a = .error e := by
  induction as with
  | nil => simp [pure, Except.pure]
  | cons a as ih =>
    rw [List.forM_cons]
    cases h : f a with
    | error e' =>
      constructor
      · intro he
        exact ⟨[], a, as, rfl, by simp, h.trans he⟩
      · rintro ⟨before, b, after, has, hbefore, hb⟩
        cases before with
        | nil =>
          obtain ⟨rfl, -⟩ := List.cons.inj has
          exact h.symm.trans hb
        | cons c before =>
          obtain ⟨rfl, -⟩ := List.cons.inj has
          have hok := hbefore a (by simp)
          rw [h] at hok
          cases hok
    | ok u =>
      refine Iff.trans (show _ ↔ forM as f = .error e from Iff.rfl) (ih.trans ?_)
      constructor
      · rintro ⟨before, b, after, rfl, hbefore, hb⟩
        refine ⟨a :: before, b, after, rfl, ?_, hb⟩
        exact List.forall_mem_cons.2 ⟨h, hbefore⟩
      · rintro ⟨before, b, after, has, hbefore, hb⟩
        cases before with
        | nil =>
          obtain ⟨rfl, -⟩ := List.cons.inj has
          rw [h] at hb
          cases hb
        | cons c before =>
          obtain ⟨rfl, rfl⟩ := List.cons.inj has
          exact ⟨before, b, after, rfl, fun d hd => hbefore d (by simp [hd]), hb⟩

/-- A pass over partial images checks those that exist. -/
theorem forM_filterMap (f : α → Option β) (check : β → Except ε Unit) (as : List α) :
    forM (as.filterMap f) check = forM as fun a => (f a).elim (pure ()) check := by
  induction as with
  | nil => rfl
  | cons a as ih =>
    rw [List.forM_cons, ← ih]
    cases h : f a with
    | none => simp [h]
    | some b => simp [h]

/-- A pass over pairs of elements is a pass that does both checks at each step. -/
theorem forM_flatMap_pair (f g : α → β) (check : β → Except ε Unit) (as : List α) :
    forM (as.flatMap fun a => [f a, g a]) check =
      forM as fun a => check (f a) >>= fun _ => check (g a) := by
  induction as with
  | nil => rfl
  | cons a as ih =>
    rw [List.flatMap_cons, List.forM_append, ih, List.forM_cons]
    simp

end TraceGraph.Sequence
