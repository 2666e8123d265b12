import TraceGraph.Proofs.DataId

/-! Source ranges are told apart by their location ids. Whatever a URI is made of, the three numbers after
it hold no colon, so the last three colons of a location id are those put between its fields. -/

namespace TraceGraph.SourceRange

theorem eq_nil_of_append_cons_eq {c : Char} {s t cs : List Char} (hs : c ∉ s) (h : c :: s = cs ++ c :: t) :
    cs = [] ∧ s = t := by
  cases cs with
  | nil => exact ⟨rfl, (List.cons.inj h).2⟩
  | cons d ds =>
    obtain ⟨-, rfl⟩ := List.cons.inj h
    exact absurd (List.mem_append_right ds List.mem_cons_self) hs

/-- What stands before the last colon of a text, and what stands after it. -/
theorem append_colon_inj {s t u w : String} (ht : ':' ∉ t.toList) (hw : ':' ∉ w.toList)
    (h : s ++ ":" ++ t = u ++ ":" ++ w) : s = u ∧ t = w := by
  have hlists : s.toList ++ ':' :: t.toList = u.toList ++ ':' :: w.toList := by
    simpa using congrArg String.toList h
  rcases List.append_eq_append_iff.1 hlists with ⟨cs, hu, htail⟩ | ⟨cs, hs, htail⟩
  · obtain ⟨rfl, hsuffix⟩ := eq_nil_of_append_cons_eq ht htail
    rw [List.append_nil] at hu
    exact ⟨String.toList_inj.1 hu.symm, String.toList_inj.1 hsuffix⟩
  · obtain ⟨rfl, hsuffix⟩ := eq_nil_of_append_cons_eq hw htail
    rw [List.append_nil] at hs
    exact ⟨String.toList_inj.1 hs, String.toList_inj.1 hsuffix.symm⟩

theorem colon_not_mem_toString (n : Int) : ':' ∉ (toString n).toList := by
  rw [Int.toString_eq_repr]
  exact Identifier.not_mem_repr (by decide) (by decide) n

theorem append_number_inj {s u : String} {n m : Int} (h : s ++ ":" ++ toString n = u ++ ":" ++ toString m) :
    s = u ∧ n = m := by
  obtain ⟨hs, hn⟩ := append_colon_inj (colon_not_mem_toString n) (colon_not_mem_toString m) h
  rw [Int.toString_eq_repr, Int.toString_eq_repr] at hn
  exact ⟨hs, Int.repr_injective hn⟩

theorem locationId_injective : Function.Injective locationId := by
  rintro ⟨uri, startLine, startColumn, charLength⟩ ⟨uri', startLine', startColumn', charLength'⟩ h
  obtain ⟨hbefore, rfl⟩ := append_number_inj h
  obtain ⟨hbefore, rfl⟩ := append_number_inj hbefore
  obtain ⟨rfl, rfl⟩ := append_number_inj hbefore
  rfl

end TraceGraph.SourceRange
