import RestService.Text.Pieces

set_option autoImplicit false

namespace RestService.Text

/-- The characters of a piece are characters of the text. -/
theorem mem_of_mem_pieces {sep c : Char} {cs piece : List Char} (cut : piece ∈ pieces sep cs)
    (inside : c ∈ piece) : c ∈ cs := by
  induction cs generalizing piece with
  | nil =>
    rw [pieces, List.mem_singleton] at cut
    rwa [cut] at inside
  | cons d cs ih =>
    rw [pieces] at cut
    split at cut
    · rcases List.mem_cons.1 cut with rfl | later
      · exact absurd inside List.not_mem_nil
      · exact List.mem_cons_of_mem d (ih later inside)
    · split at cut
      · rename_i none
        exact absurd none (pieces_ne_nil sep cs)
      · rename_i first rest some
        rcases List.mem_cons.1 cut with rfl | later
        · rcases List.mem_cons.1 inside with rfl | within
          · exact List.mem_cons_self
          · exact List.mem_cons_of_mem d (ih (some ▸ List.mem_cons_self) within)
        · exact List.mem_cons_of_mem d (ih (some ▸ List.mem_cons_of_mem first later) inside)

/-- A text is cut on both sides of a separator on its own. -/
theorem pieces_append_sep (sep : Char) (front back : List Char) :
    pieces sep (front ++ sep :: back) = pieces sep front ++ pieces sep back := by
  induction front with
  | nil => exact if_pos rfl
  | cons c front ih =>
    rw [List.cons_append, pieces, pieces, ih]
    by_cases cut : c = sep
    · rw [if_pos cut, if_pos cut]
      rfl
    · rw [if_neg cut, if_neg cut]
      cases first : pieces sep front with
      | nil => exact absurd first (pieces_ne_nil sep front)
      | cons piece others => rfl

/-- Text without a separator lengthens the first piece of what follows it. -/
theorem pieces_append_of_not_mem {sep : Char} {word : List Char} (free : sep ∉ word)
    {cs first : List Char} {others : List (List Char)} (cut : pieces sep cs = first :: others) :
    pieces sep (word ++ cs) = (word ++ first) :: others := by
  induction word with
  | nil => exact cut
  | cons c word ih =>
    obtain ⟨other, more⟩ := not_or.1 (mt List.mem_cons.2 free)
    rw [List.cons_append, pieces, if_neg (Ne.symm other), ih more]
    rfl

theorem exists_pieces_eq_cons (sep : Char) (cs : List Char) :
    ∃ first others, pieces sep cs = first :: others :=
  List.exists_cons_of_ne_nil (pieces_ne_nil sep cs)

theorem cutAt_append {sep : Char} {before : List Char} (free : sep ∉ before) (after : List Char) :
    cutAt sep (before ++ sep :: after) = some (before, after) := by
  induction before with
  | nil => exact if_pos rfl
  | cons c cs ih =>
    obtain ⟨other, more⟩ := not_or.1 (mt List.mem_cons.2 free)
    rw [List.cons_append, cutAt, if_neg (Ne.symm other), ih more]
    rfl

/-- The text `back` stands behind a separator in `cs`. -/
def Behind (sep : Char) (cs back : List Char) : Prop := ∃ front, cs = front ++ sep :: back

theorem not_behind_nil {sep : Char} {back : List Char} : ¬Behind sep [] back := by
  rintro ⟨front, whole⟩
  exact List.append_ne_nil_of_right_ne_nil front (List.cons_ne_nil sep back) whole.symm

theorem behind_cons_iff {sep c : Char} {cs back : List Char} :
    Behind sep (c :: cs) back ↔ (c = sep ∧ back = cs) ∨ Behind sep cs back := by
  constructor
  · rintro ⟨front, whole⟩
    cases front with
    | nil =>
      obtain ⟨rfl, rfl⟩ := List.cons.inj whole
      exact .inl ⟨rfl, rfl⟩
    | cons d front => exact .inr ⟨front, (List.cons.inj whole).2⟩
  · rintro (⟨rfl, rfl⟩ | ⟨front, rfl⟩)
    · exact ⟨[], rfl⟩
    · exact ⟨c :: front, rfl⟩

/-- The last pieces of a text are those of what stands behind one of its separators. -/
theorem suffix_pieces_iff {sep : Char} {cs : List Char} {last : List (List Char)}
    (some : last ≠ []) :
    last <:+ pieces sep cs
      ↔ last = pieces sep cs ∨ ∃ back, Behind sep cs back ∧ last = pieces sep back := by
  constructor
  · intro ends
    induction cs with
    | nil =>
      rcases List.suffix_cons_iff.1 ends with whole | ends
      · exact .inl whole
      · exact absurd (List.suffix_nil.1 ends) some
    | cons c cs ih =>
      obtain ⟨first, others, cut⟩ := exists_pieces_eq_cons sep cs
      rw [cut] at ih
      by_cases same : c = sep
      · rw [pieces, if_pos same, cut] at ends ⊢
        rcases List.suffix_cons_iff.1 ends with whole | ends
        · exact .inl whole
        rcases ih ends with whole | ⟨back, behind, whole⟩
        · exact .inr ⟨cs, behind_cons_iff.2 (.inl ⟨same, rfl⟩), whole.trans cut.symm⟩
        · exact .inr ⟨back, behind_cons_iff.2 (.inr behind), whole⟩
      · rw [pieces, if_neg same, cut] at ends ⊢
        rcases List.suffix_cons_iff.1 ends with whole | ends
        · exact .inl whole
        rcases ih (List.suffix_cons_iff.2 (.inr ends)) with rfl | ⟨back, behind, whole⟩
        -- all pieces of `cs` do not end the later ones
        · exact absurd ends.length_le (Nat.not_succ_le_self _)
        · exact .inr ⟨back, behind_cons_iff.2 (.inr behind), whole⟩
  · rintro (rfl | ⟨back, ⟨front, rfl⟩, rfl⟩)
    · exact List.suffix_rfl
    · rw [pieces_append_sep]
      exact List.suffix_append _ _

end RestService.Text
