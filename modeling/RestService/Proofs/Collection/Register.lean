import Mathlib.Data.List.Induction
import RestService.Proofs.Collection.Catalogue

set_option autoImplicit false

namespace RestService.Registry

variable {r : Registry} {c : CollectionSchema} {spec : CollectionSpec}

theorem attempts_concat (specs : List CollectionSpec) (spec : CollectionSpec) :
    attempts (specs ++ [spec]) = ((attempts specs).attempt spec).2 := by
  rw [attempts, List.foldl_append]
  rfl

theorem inStep_attempts (specs : List CollectionSpec) : (attempts specs).InStep := by
  induction specs using List.reverseRecOn with
  | nil => exact inStep_empty
  | append_singleton specs spec ih =>
    rw [attempts_concat]
    exact ih.attempt spec

/-- A call leaves the collections that there are where they are. -/
theorem prefix_attempt (r : Registry) (spec : CollectionSpec) :
    r.entries <+: (r.attempt spec).2.entries := by
  rw [attempt_snd]
  split
  · exact List.prefix_append _ _
  · exact List.prefix_rfl

theorem attempts_prefix (specs more : List CollectionSpec) :
    (attempts specs).entries <+: (attempts (specs ++ more)).entries := by
  induction more using List.reverseRecOn with
  | nil => simp only [List.append_nil, List.prefix_rfl]
  | append_singleton more spec ih =>
    rw [← List.append_assoc, attempts_concat]
    exact ih.trans (prefix_attempt _ spec)

/-- A call among `specs` has been answered with the collection `c`. -/
def Registered (specs : List CollectionSpec) (c : CollectionSchema) : Prop :=
  ∃ earlier spec later, specs = earlier ++ spec :: later
    ∧ ((attempts earlier).attempt spec).1 = .ok c

theorem Registered.append {specs : List CollectionSpec} (registered : Registered specs c)
    (more : List CollectionSpec) : Registered (specs ++ more) c := by
  obtain ⟨earlier, spec, later, rfl, answered⟩ := registered
  exact ⟨earlier, spec, later ++ more, by simp, answered⟩

theorem Registered.mem {specs : List CollectionSpec} (registered : Registered specs c) :
    c ∈ (attempts specs).entries := by
  obtain ⟨earlier, spec, later, rfl, answered⟩ := registered
  have early : c ∈ (attempts (earlier ++ [spec])).entries := by
    rw [attempts_concat, attempt_snd, answered]
    exact List.mem_append_right _ List.mem_cons_self
  have kept := attempts_prefix (earlier ++ [spec]) later
  rw [List.append_assoc] at kept
  exact kept.subset early

/-- The collections are those that calls have been answered with. -/
theorem mem_attempts_iff {specs : List CollectionSpec} :
    c ∈ (attempts specs).entries ↔ Registered specs c := by
  refine ⟨fun mem => ?_, Registered.mem⟩
  induction specs using List.reverseRecOn with
  | nil => exact absurd mem List.not_mem_nil
  | append_singleton specs spec ih =>
    rw [attempts_concat, attempt_snd] at mem
    cases answered : ((attempts specs).attempt spec).1 with
    | error error =>
      rw [answered] at mem
      exact (ih mem).append [spec]
    | ok new =>
      rw [answered] at mem
      rcases List.mem_append.1 mem with old | here
      · exact (ih old).append [spec]
      · rw [List.mem_singleton.1 here]
        exact ⟨specs, spec, [], rfl, answered⟩

/-- Whatever calls have been made, no two collections share a name or a type, every position of an
index is that of the collection with its key, and the look-ups find exactly the collections that
calls have been answered with, now and after any further calls. One more call that fails leaves the
registry as it was. It succeeds exactly if its sources can be read and its name and both its types
are new, and then adds that collection. -/
theorem attempts_exact (specs : List CollectionSpec) :
    (attempts specs).Distinct
    ∧ (attempts specs).InStep
    ∧ (∀ name c, (attempts specs).get? name = some c ↔ Registered specs c ∧ c.name = name)
    ∧ (∀ typeName c, (attempts specs).byExternalType? typeName = some c
      ↔ Registered specs c ∧ c.contains = typeName)
    ∧ (∀ typeName c, (attempts specs).byInternalType? typeName = some c
      ↔ Registered specs c ∧ c.internalType = typeName)
    ∧ (∀ c more, Registered specs c → (attempts (specs ++ more)).get? c.name = some c
      ∧ (attempts (specs ++ more)).byExternalType? c.contains = some c
      ∧ (attempts (specs ++ more)).byInternalType? c.internalType = some c)
    ∧ (∀ spec error after, (attempts specs).attempt spec = (.error error, after) →
      after = attempts specs)
    ∧ ∀ spec c after, (attempts specs).attempt spec = (.ok c, after)
      ↔ ∃ rules hints, Ruleset.parse spec.entityTransform = .ok rules
        ∧ Hints.parse spec.parseHints = .ok hints
        ∧ c = ⟨spec, rules, hints⟩
        ∧ (attempts specs).IsNew c
        ∧ after = (attempts specs).insert c := by
  have inStep := inStep_attempts specs
  refine ⟨inStep.distinct, inStep, ?_, ?_, ?_, ?_, ?_, ?_⟩
  · intro name c
    rw [inStep.get?_eq_some_iff, mem_attempts_iff]
  · intro typeName c
    rw [inStep.byExternalType?_eq_some_iff, mem_attempts_iff]
  · intro typeName c
    rw [inStep.byInternalType?_eq_some_iff, mem_attempts_iff]
  · intro c more registered
    have later := inStep_attempts (specs ++ more)
    have mem := (registered.append more).mem
    exact ⟨later.get?_eq_some_iff.2 ⟨mem, rfl⟩, later.byExternalType?_eq_some_iff.2 ⟨mem, rfl⟩,
      later.byInternalType?_eq_some_iff.2 ⟨mem, rfl⟩⟩
  · intro spec error after failed
    have kept := attempt_snd (attempts specs) spec
    rw [failed] at kept
    exact kept
  · intro spec c after
    have grown := attempt_snd (attempts specs) spec
    constructor
    · intro tried
      rw [tried] at grown
      have answered : ((attempts specs).attempt spec).1 = .ok c := by rw [tried]
      obtain ⟨made, new⟩ := inStep.attempt_eq_ok_iff.1 answered
      obtain ⟨rules, hints, first, second, same⟩ := CollectionSchema.ofSpec_eq_ok_iff.1 made
      exact ⟨rules, hints, first, second, same, new, grown⟩
    · rintro ⟨rules, hints, first, second, same, new, rfl⟩
      have made := CollectionSchema.ofSpec_eq_ok_iff.2 ⟨rules, hints, first, second, same⟩
      have answered := inStep.attempt_eq_ok_iff.2 ⟨made, new⟩
      rw [answered] at grown
      exact Prod.ext answered grown

/-- A collection whose records have a type of their own inside. -/
def capitalBooks : CollectionSchema where
  spec := { name := "books", contains := "book", entityTransform := "title(!type) => !type" }
  rules := [⟨⟨typeKey, [.title]⟩, .forward, ⟨typeKey, []⟩, false⟩]
  hints := []

/-- A collection that would claim the same type inside cannot be added, and the books are still
found. -/
theorem attempts_exact_books :
    (attempts [capitalBooks.spec]).attempt { name := "titles", contains := "Book" }
        = (.error (.duplicateType "Book" "books" "titles"), attempts [capitalBooks.spec])
      ∧ (attempts [capitalBooks.spec]).attempt { name := "tags", contains := "tag" }
        = (.ok ⟨{ name := "tags", contains := "tag" }, [], []⟩,
          (attempts [capitalBooks.spec]).insert ⟨{ name := "tags", contains := "tag" }, [], []⟩)
      ∧ (attempts [capitalBooks.spec, { name := "titles", contains := "Book" }]).byInternalType?
          "Book" = some capitalBooks := by
  have registered : Registered [capitalBooks.spec] capitalBooks :=
    ⟨[], capitalBooks.spec, [], rfl, by decide +kernel⟩
  obtain ⟨-, -, -, -, -, found, unchanged, added⟩ := attempts_exact [capitalBooks.spec]
  have refused : ((attempts [capitalBooks.spec]).attempt { name := "titles", contains := "Book" }).1
      = .error (.duplicateType "Book" "books" "titles") := by decide +kernel
  have new : (attempts [capitalBooks.spec]).IsNew
      ⟨{ name := "tags", contains := "tag" }, [], []⟩ := by
    unfold IsNew CollectionSchema.Apart
    decide +kernel
  have inside : capitalBooks.internalType = "Book" := by decide +kernel
  have still := (found _ [{ name := "titles", contains := "Book" }] registered).2.2
  rw [inside] at still
  refine ⟨?_, (added _ _ _).2 ⟨[], [], rfl, rfl, rfl, new, rfl⟩, still⟩
  exact Prod.ext refused (unchanged _ _ _ (Prod.ext refused rfl))

end RestService.Registry
