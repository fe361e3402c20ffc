import Mathlib.Data.List.Forall2

set_option autoImplicit false

namespace RestService.Result

variable {α β ε : Type}

/-- A computation succeeds only through both of its steps. -/
theorem bind_eq_ok {x : Except ε α} {f : α → Except ε β} {b : β} :
    (x >>= f) = .ok b ↔ ∃ a, x = .ok a ∧ f a = .ok b := by
  cases x <;> simp [bind, Except.bind]

/-- A computation fails in its first step or in its second. -/
theorem bind_eq_error {x : Except ε α} {f : α → Except ε β} {e : ε} :
    (x >>= f) = .error e ↔ x = .error e ∨ ∃ a, x = .ok a ∧ f a = .error e := by
  cases x <;> simp [bind, Except.bind]

theorem map_eq_ok {f : α → β} {x : Except ε α} {b : β} :
    x.map f = .ok b ↔ ∃ a, x = .ok a ∧ f a = b := by
  cases x <;> simp [Except.map]

theorem map_eq_error {f : α → β} {x : Except ε α} {e : ε} :
    x.map f = .error e ↔ x = .error e := by
  cases x <;> simp [Except.map]

theorem exists_map_eq_ok {f : α → β} {x : Except ε α} :
    (∃ b, x.map f = .ok b) ↔ ∃ a, x = .ok a := by
  cases x <;> simp [Except.map]

theorem mapError_eq_ok {φ : Type} {f : ε → φ} {x : Except ε α} {a : α} :
    x.mapError f = .ok a ↔ x = .ok a := by
  cases x <;> simp [Except.mapError]

theorem mapError_eq_error {φ : Type} {f : ε → φ} {x : Except ε α} {e : φ} :
    x.mapError f = .error e ↔ ∃ cause, x = .error cause ∧ f cause = e := by
  cases x <;> simp [Except.mapError]

/-- A computation fails or succeeds. -/
theorem exists_error_iff {x : Except ε α} : (∃ e, x = .error e) ↔ ¬∃ a, x = .ok a := by
  cases x <;> simp

theorem toOption_eq_some {x : Except ε α} {a : α} : x.toOption = some a ↔ x = .ok a := by
  cases x <;> simp [Except.toOption]

@[simp] theorem throw_ne_ok {e : ε} {a : α} : (throw e : Except ε α) ≠ .ok a := by
  intro same
  cases same

/-- A check that is passed leaves what comes after it. -/
theorem check_eq_ok {c : Prop} [Decidable c] {e : ε} {f : α → Except ε β} {x : Except ε β} {b : β} :
    (if c then (throw e : Except ε α) >>= f else x) = .ok b ↔ ¬c ∧ x = .ok b := by
  by_cases failed : c
  · rw [if_pos failed]
    exact ⟨fun (same : Except.error e = .ok b) => (nomatch same),
      fun passed => absurd failed passed.1⟩
  · rw [if_neg failed]
    exact ⟨fun same => ⟨failed, same⟩, fun passed => passed.2⟩

theorem mapM_option_cons {f : α → Option β} {x : α} {xs : List α} {ys : List β}
    (found : (x :: xs).mapM f = some ys) :
    ∃ y rest, f x = some y ∧ xs.mapM f = some rest ∧ ys = y :: rest := by
  rw [List.mapM_cons] at found
  obtain ⟨y, first, more⟩ := Option.bind_eq_some_iff.1 found
  obtain ⟨rest, others, whole⟩ := Option.bind_eq_some_iff.1 more
  exact ⟨y, rest, first, others, (Option.some.inj whole).symm⟩

/-- Every result is that of an item. -/
theorem exists_of_mem_mapM {f : α → Option β} {xs : List α} {ys : List β}
    (found : xs.mapM f = some ys) : ∀ y ∈ ys, ∃ x ∈ xs, f x = some y := by
  induction xs generalizing ys with
  | nil =>
    intro y mem
    rw [← Option.some.inj found] at mem
    exact absurd mem List.not_mem_nil
  | cons x xs ih =>
    obtain ⟨first, rest, here, others, rfl⟩ := mapM_option_cons found
    intro y mem
    rcases List.mem_cons.1 mem with rfl | later
    · exact ⟨x, List.mem_cons_self, here⟩
    · obtain ⟨z, inside, gives⟩ := ih others y later
      exact ⟨z, List.mem_cons_of_mem x inside, gives⟩

/-- A list of steps fails in one of them. -/
theorem exists_of_mapM_eq_error {f : α → Except ε β} {xs : List α} {e : ε}
    (failed : xs.mapM f = .error e) : ∃ x ∈ xs, f x = .error e := by
  induction xs with
  | nil => cases failed
  | cons x xs ih =>
    rw [List.mapM_cons] at failed
    rcases bind_eq_error.1 failed with here | ⟨y, -, later⟩
    · exact ⟨x, List.mem_cons_self, here⟩
    · rcases bind_eq_error.1 later with later | ⟨ys, -, done⟩
      · obtain ⟨z, inside, found⟩ := ih later
        exact ⟨z, List.mem_cons_of_mem x inside, found⟩
      · cases done

/-- A list of steps succeeds by the success of each. -/
theorem mapM_eq_ok {f : α → Except ε β} {xs : List α} {ys : List β} :
    xs.mapM f = .ok ys ↔ List.Forall₂ (fun x y => f x = .ok y) xs ys := by
  induction xs generalizing ys with
  | nil =>
    rw [List.forall₂_nil_left_iff, List.mapM_nil]
    exact ⟨fun same => (Except.ok.inj same).symm, fun same => same ▸ rfl⟩
  | cons x xs ih =>
    rw [List.mapM_cons, List.forall₂_cons_left_iff]
    constructor
    · intro found
      obtain ⟨y, here, more⟩ := bind_eq_ok.1 found
      obtain ⟨rest, later, whole⟩ := bind_eq_ok.1 more
      exact ⟨y, rest, here, ih.1 later, (Except.ok.inj whole).symm⟩
    · rintro ⟨y, rest, here, later, rfl⟩
      rw [here, ih.2 later]
      rfl

/-- What each step of a fold that succeeds keeps holds in the end. -/
theorem foldlM_invariant {f : β → α → Except ε β} {holds : β → Prop} {xs : List α} {start last : β}
    (begins : holds start) (kept : ∀ x ∈ xs, ∀ b next, f b x = .ok next → holds b → holds next)
    (ran : xs.foldlM f start = .ok last) : holds last := by
  induction xs generalizing start with
  | nil =>
    cases ran
    exact begins
  | cons x xs ih =>
    rw [List.foldlM_cons] at ran
    obtain ⟨next, here, later⟩ := bind_eq_ok.1 ran
    have more : ∀ y ∈ xs, ∀ b next, f b y = .ok next → holds b → holds next :=
      fun y mem => kept y (List.mem_cons_of_mem x mem)
    exact ih (kept x List.mem_cons_self start next here begins) more later

/-- Every result answers to an item. -/
theorem exists_of_mem_right {related : α → β → Prop} {xs : List α} {ys : List β}
    (each : List.Forall₂ related xs ys) {y : β} (mem : y ∈ ys) : ∃ x ∈ xs, related x y := by
  induction each with
  | nil => exact absurd mem List.not_mem_nil
  | cons here _ ih =>
    rcases List.mem_cons.1 mem with rfl | later
    · exact ⟨_, List.mem_cons_self, here⟩
    · obtain ⟨x, inside, found⟩ := ih later
      exact ⟨x, List.mem_cons_of_mem _ inside, found⟩

/-- The item at a place has the result at that place. -/
theorem exists_getElem?_right {related : α → β → Prop} {xs : List α} {ys : List β}
    (each : List.Forall₂ related xs ys) {place : Nat} {x : α} (here : xs[place]? = some x) :
    ∃ y, ys[place]? = some y ∧ related x y := by
  induction each generalizing place with
  | nil => cases here
  | cons first _ ih =>
    cases place with
    | zero =>
      cases here
      exact ⟨_, rfl, first⟩
    | succ place => exact ih here

/-- Every item has its result. -/
theorem exists_of_mem_left {related : α → β → Prop} {xs : List α} {ys : List β}
    (each : List.Forall₂ related xs ys) {x : α} (mem : x ∈ xs) : ∃ y ∈ ys, related x y :=
  exists_of_mem_right each.flip mem

theorem exists_forall₂ {related : α → β → Prop} {xs : List α} (each : ∀ x ∈ xs, ∃ y, related x y) :
    ∃ ys, List.Forall₂ related xs ys := by
  induction xs with
  | nil => exact ⟨[], .nil⟩
  | cons x xs ih =>
    obtain ⟨⟨y, here⟩, later⟩ := List.forall_mem_cons.1 each
    obtain ⟨ys, rest⟩ := ih later
    exact ⟨y :: ys, .cons here rest⟩

theorem exists_forall₂_iff {related : α → β → Prop} {xs : List α} :
    (∃ ys, List.Forall₂ related xs ys) ↔ ∀ x ∈ xs, ∃ y, related x y := by
  refine ⟨fun all x mem => ?_, exists_forall₂⟩
  obtain ⟨ys, each⟩ := all
  obtain ⟨y, -, here⟩ := exists_of_mem_left each mem
  exact ⟨y, here⟩

/-- What follows for each item from its result follows for the lists. -/
theorem forall₂_imp {related other : α → β → Prop} {xs : List α} {ys : List β}
    (each : List.Forall₂ related xs ys) (implies : ∀ x ∈ xs, ∀ y, related x y → other x y) :
    List.Forall₂ other xs ys :=
  ((List.forall₂_and_left xs ys).2 ⟨implies, each⟩).imp fun _ y both => both.1 y both.2

/-- What is the same for two items that answer to each other is the same for the lists. -/
theorem forall₂_iff {γ : Type} {related : α → β → Prop} {first : α → γ → Prop}
    {second : β → γ → Prop} {xs : List α} {ys : List β} (each : List.Forall₂ related xs ys)
    (same : ∀ x ∈ xs, ∀ y, related x y → ∀ z, first x z ↔ second y z) {zs : List γ} :
    List.Forall₂ first xs zs ↔ List.Forall₂ second ys zs := by
  induction each generalizing zs with
  | nil => rw [List.forall₂_nil_left_iff, List.forall₂_nil_left_iff]
  | cons here _ ih =>
    rw [List.forall₂_cons_left_iff, List.forall₂_cons_left_iff]
    refine exists₂_congr fun z zs => and_congr (same _ List.mem_cons_self _ here z) ?_
    exact and_congr_left' (ih fun x mem => same x (List.mem_cons_of_mem _ mem))

/-- Where each pair of items has something between its two, so have the lists. -/
theorem exists_between {γ : Type} {related : α → γ → Prop} {before : α → β → Prop}
    {after : β → γ → Prop} {xs : List α} {zs : List γ}
    (between : ∀ x z, related x z → ∃ y, before x y ∧ after y z)
    (each : List.Forall₂ related xs zs) :
    ∃ ys, List.Forall₂ before xs ys ∧ List.Forall₂ after ys zs := by
  induction each with
  | nil => exact ⟨[], .nil, .nil⟩
  | cons here _ ih =>
    obtain ⟨y, first, second⟩ := between _ _ here
    obtain ⟨ys, left, right⟩ := ih
    exact ⟨y :: ys, .cons first left, .cons second right⟩

/-- A list answers to the last items of another one as it does to one of its ends. -/
theorem forall₂_drop_iff {α β : Type} {related : α → β → Prop} {xs : List α} {ys : List β} :
    (xs.length ≤ ys.length ∧ List.Forall₂ related xs (ys.drop (ys.length - xs.length)))
      ↔ ∃ last, last <:+ ys ∧ List.Forall₂ related xs last := by
  constructor
  · rintro ⟨-, each⟩
    exact ⟨_, List.drop_suffix _ ys, each⟩
  · rintro ⟨last, ends, each⟩
    rw [each.length_eq]
    rw [List.suffix_iff_eq_drop.1 ends] at each
    exact ⟨ends.length_le, each⟩

/-- Where the tests on two lists agree, the first item that passes has its partner as the first. -/
theorem exists_find?_of_forall₂ {α β : Type} {related : α → β → Prop} {p : α → Bool} {q : β → Bool}
    {xs : List α} {ys : List β} (each : List.Forall₂ related xs ys)
    (same : ∀ x y, related x y → p x = q y) {x : α} (first : xs.find? p = some x) :
    ∃ y, ys.find? q = some y ∧ related x y := by
  induction each with
  | nil => cases first
  | @cons z y xs ys here _ ih =>
    rw [List.find?_cons, same z y here] at first
    rw [List.find?_cons]
    cases passed : q y with
    | true =>
      rw [passed] at first
      cases first
      exact ⟨y, rfl, here⟩
    | false =>
      rw [passed] at first
      exact ih first

end RestService.Result
