import RestService.Text.Case

set_option autoImplicit false

namespace RestService.Text

theorem mapped_ne_nil {rows : List (Nat × Nat × Nat × Int)} {long : List (Nat × List Nat)}
    (full : ∀ row ∈ long, row.2 ≠ []) (c : Char) : mapped rows long c ≠ [] := by
  unfold mapped
  split
  · rename_i form found
    obtain ⟨before, after, split, -⟩ := List.lookup_eq_some_iff.1 found
    have mem : (c.toNat, form) ∈ long := split ▸ List.mem_append_right before List.mem_cons_self
    simpa using full _ mem
  · split <;> exact List.cons_ne_nil _ _

theorem lowerChar_ne_nil (c : Char) : lowerChar c ≠ [] := by
  unfold lowerChar
  split
  · exact List.cons_ne_nil _ _
  · exact mapped_ne_nil (by decide) c

theorem upperChar_ne_nil (c : Char) : upperChar c ≠ [] := by
  unfold upperChar
  split
  · exact List.cons_ne_nil _ _
  · exact mapped_ne_nil (by decide) c

theorem lowerBetween_ne_nil (before : List Char) (c : Char) (after : List Char) :
    lowerBetween before c after ≠ [] := by
  unfold lowerBetween
  split
  · split <;> exact List.cons_ne_nil _ _
  · exact lowerChar_ne_nil c

theorem ofList_ne_empty {cs : List Char} (ne : cs ≠ []) : String.ofList cs ≠ "" := by
  intro same
  exact ne (by simpa using congrArg String.toList same)

theorem exists_toList {s : String} (ne : s ≠ "") : ∃ c cs, s.toList = c :: cs := by
  cases chars : s.toList with
  | nil => exact absurd (String.toList_inj.1 chars) ne
  | cons c cs => exact ⟨c, cs, rfl⟩

theorem lower_ne_empty {s : String} (ne : s ≠ "") : lower s ≠ "" := by
  obtain ⟨c, cs, chars⟩ := exists_toList ne
  rw [lower, chars, lowerAfter]
  exact ofList_ne_empty (List.append_ne_nil_of_left_ne_nil (lowerBetween_ne_nil [] c cs) _)

theorem upper_ne_empty {s : String} (ne : s ≠ "") : upper s ≠ "" := by
  obtain ⟨c, cs, chars⟩ := exists_toList ne
  rw [upper, chars, List.flatMap_cons]
  exact ofList_ne_empty (List.append_ne_nil_of_left_ne_nil (upperChar_ne_nil c) _)

theorem title_ne_empty {s : String} (ne : s ≠ "") : title s ≠ "" := by
  obtain ⟨c, cs, chars⟩ := exists_toList ne
  rw [title, chars, titleFrom]
  refine ofList_ne_empty ?_
  split
  · exact List.append_ne_nil_of_left_ne_nil (upperChar_ne_nil c) _
  · exact List.cons_ne_nil _ _

end RestService.Text
