set_option autoImplicit false

namespace RestService

/-- A map from text, listed in ascending order of the keys. -/
abbrev Dict (α : Type) := List (String × α)

namespace Dict

variable {α : Type}

def get? (d : Dict α) (key : String) : Option α := List.lookup key d

def contains (d : Dict α) (key : String) : Bool := (get? d key).isSome

/-- The map with `value` for `key`, whatever it had before. -/
def insert (d : Dict α) (key : String) (value : α) : Dict α :=
  match d with
  | [] => [(key, value)]
  | (k, v) :: rest =>
    if key < k then (key, value) :: (k, v) :: rest
    else if key = k then (key, value) :: rest
    else (k, v) :: insert rest key value

def erase (d : Dict α) (key : String) : Dict α := d.filter fun entry => entry.1 != key

/-- The map of the pairs; of several values for a key the last one counts. -/
def ofList (pairs : List (String × α)) : Dict α :=
  pairs.foldl (fun d entry => insert d entry.1 entry.2) []

/-- The map with all pairs of `other`, which win over those of `d`. -/
def extend (d : Dict α) (other : List (String × α)) : Dict α :=
  other.foldl (fun d entry => insert d entry.1 entry.2) d

def keys (d : Dict α) : List String := d.map Prod.fst

/-- Every key is less than those after it. -/
def Sorted (d : Dict α) : Prop := d.Pairwise fun first second => first.1 < second.1

@[simp] theorem get?_nil (key : String) : get? ([] : Dict α) key = none := rfl

theorem get?_cons (k key : String) (v : α) (rest : Dict α) :
    get? ((k, v) :: rest) key = if key = k then some v else get? rest key := by
  rw [get?, List.lookup_cons]
  cases same : key == k <;> simp_all [get?]

theorem get?_insert (d : Dict α) (key other : String) (value : α) :
    get? (insert d key value) other = if other = key then some value else get? d other := by
  induction d with
  | nil => simp [insert, get?_cons]
  | cons entry rest ih =>
    obtain ⟨k, v⟩ := entry
    rw [insert]
    by_cases less : key < k
    · rw [if_pos less, get?_cons]
    · rw [if_neg less]
      by_cases same : key = k
      · subst same
        rw [if_pos rfl, get?_cons, get?_cons]
        by_cases h : other = key <;> simp [h]
      · rw [if_neg same, get?_cons, get?_cons, ih]
        by_cases h : other = k
        · subst h
          simp [Ne.symm same]
        · simp [h]

theorem mem_insert {d : Dict α} {key : String} {value : α} {entry : String × α}
    (mem : entry ∈ insert d key value) : entry = (key, value) ∨ entry ∈ d := by
  induction d with
  | nil => simpa [insert] using mem
  | cons first rest ih =>
    obtain ⟨k, v⟩ := first
    rw [insert] at mem
    split at mem
    · simpa using mem
    · split at mem
      · rcases List.mem_cons.1 mem with h | h
        · exact .inl h
        · exact .inr (List.mem_cons_of_mem _ h)
      · rcases List.mem_cons.1 mem with h | h
        · exact .inr (h ▸ List.mem_cons_self)
        · exact (ih h).imp id (List.mem_cons_of_mem _)

theorem sorted_insert {d : Dict α} (sorted : Sorted d) (key : String) (value : α) :
    Sorted (insert d key value) := by
  induction d with
  | nil => simp [insert, Sorted]
  | cons first rest ih =>
    obtain ⟨k, v⟩ := first
    obtain ⟨above, tail⟩ := List.pairwise_cons.1 sorted
    rw [insert]
    split
    · rename_i less
      refine List.pairwise_cons.2 ⟨fun entry mem => ?_, sorted⟩
      rcases List.mem_cons.1 mem with h | h
      · exact h ▸ less
      · exact String.lt_trans less (above entry h)
    · split
      · rename_i same
        subst same
        exact List.pairwise_cons.2 ⟨above, tail⟩
      · rename_i less same
        refine List.pairwise_cons.2 ⟨fun entry mem => ?_, ih tail⟩
        rcases mem_insert mem with h | h
        · subst h
          exact Std.lt_of_le_of_ne (Std.not_lt.1 less) (Ne.symm same)
        · exact above entry h

theorem sorted_ofList (pairs : List (String × α)) : Sorted (ofList pairs) := by
  suffices h : ∀ d : Dict α, Sorted d →
      Sorted (pairs.foldl (fun d entry => insert d entry.1 entry.2) d) from
    h [] List.Pairwise.nil
  induction pairs with
  | nil => exact fun _ sorted => sorted
  | cons entry rest ih => exact fun d sorted => ih _ (sorted_insert sorted entry.1 entry.2)

end Dict

end RestService
