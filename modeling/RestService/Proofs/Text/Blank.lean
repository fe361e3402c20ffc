import RestService.Text.Blank

set_option autoImplicit false

namespace RestService.Text

/-- A run of characters is found where the text goes on with another one. -/
theorem takeWhile_dropWhile_append {p : Char → Bool} {front rest : List Char}
    (inside : ∀ c ∈ front, p c = true) (stop : ∀ c ∈ rest.head?, p c = false) :
    (front ++ rest).takeWhile p = front ∧ (front ++ rest).dropWhile p = rest := by
  rw [List.takeWhile_append_of_pos inside, List.dropWhile_append_of_pos inside]
  cases rest with
  | nil => exact ⟨List.append_nil front, rfl⟩
  | cons c rest =>
    have other : ¬p c = true := Bool.eq_false_iff.1 (stop c rfl)
    rw [List.takeWhile_cons_of_neg other, List.dropWhile_cons_of_neg other, List.append_nil]
    exact ⟨rfl, rfl⟩

theorem stops_dropWhile (p : Char → Bool) (cs : List Char) :
    ∀ c ∈ (cs.dropWhile p).head?, p c = false := by
  intro c mem
  have first := List.head?_dropWhile_not p cs
  rwa [mem] at first

theorem length_trimRight (cs : List Char) : (trimRight cs).length ≤ cs.length := by
  have shorter := (List.dropWhile_suffix (l := cs.reverse) isBlank).length_le
  rw [List.length_reverse] at shorter
  rw [trimRight, List.length_reverse]
  exact shorter

theorem solid_of_dropWhile {cs : List Char} (same : cs.dropWhile isBlank = cs) :
    ∀ c ∈ cs.head?, isBlank c = false := by
  have stop := stops_dropWhile isBlank cs
  rwa [same] at stop

/-- A text that trimming leaves alone has no blank at an end. -/
theorem solid_of_trim {s : String} (trimmed : trim s = s) :
    (∀ c ∈ s.toList.head?, isBlank c = false) ∧ ∀ c ∈ s.toList.getLast?, isBlank c = false := by
  have whole : trimRight (trimLeft s.toList) = s.toList := by
    have inside := congrArg String.toList trimmed
    rwa [trim, String.toList_ofList] at inside
  have left : trimLeft s.toList = s.toList := by
    refine (List.dropWhile_suffix isBlank).eq_of_length_le ?_
    have kept := length_trimRight (trimLeft s.toList)
    rwa [whole] at kept
  have right : s.toList.reverse.dropWhile isBlank = s.toList.reverse := by
    rw [left] at whole
    rw [← List.reverse_eq_iff]
    exact whole
  have back := solid_of_dropWhile right
  rw [List.head?_reverse] at back
  exact ⟨solid_of_dropWhile left, back⟩

/-- Trimming leaves a text without blanks alone. -/
theorem trim_of_solid {s : String} (solid : ∀ c ∈ s.toList, isBlank c = false) : trim s = s := by
  have stays {cs : List Char} (solid : ∀ c ∈ cs, isBlank c = false) :
      cs.dropWhile isBlank = cs := by
    have stop : ∀ c ∈ cs.head?, isBlank c = false := fun c mem => solid c (List.mem_of_head? mem)
    exact (takeWhile_dropWhile_append (List.forall_mem_nil _) stop).2
  have left : s.toList.dropWhile isBlank = s.toList := stays solid
  have right : s.toList.reverse.dropWhile isBlank = s.toList.reverse :=
    stays fun c mem => solid c (List.mem_reverse.1 mem)
  rw [trim, trimChars, trimLeft, left, trimRight, right, List.reverse_reverse, String.ofList_toList]

theorem mem_dropWhile {p : Char → Bool} {cs : List Char} {c : Char} (mem : c ∈ cs)
    (kept : p c = false) : c ∈ cs.dropWhile p := by
  rw [← List.takeWhile_append_dropWhile (p := p) (l := cs), List.mem_append] at mem
  rcases mem with passed | left
  · rw [List.all_eq_true.1 List.all_takeWhile c passed] at kept
    cases kept
  · exact left

/-- Trimming drops nothing but blanks. -/
theorem mem_trim {s : String} {c : Char} (mem : c ∈ s.toList) (solid : isBlank c = false) :
    c ∈ (trim s).toList := by
  rw [trim, String.toList_ofList, trimChars, trimRight, List.mem_reverse]
  refine mem_dropWhile (List.mem_reverse.2 ?_) solid
  exact mem_dropWhile mem solid

end RestService.Text
