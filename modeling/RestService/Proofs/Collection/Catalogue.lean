import RestService.Collection.Catalogue
import RestService.Proofs.Dict
import RestService.Proofs.Result

set_option autoImplicit false

namespace RestService

namespace CollectionSchema

variable {spec : CollectionSpec} {c : CollectionSchema}

/-- Two collections share neither a name, nor a type as clients see it, nor a type inside. -/
def Apart (first second : CollectionSchema) : Prop :=
  first.name ≠ second.name ∧ first.contains ≠ second.contains
    ∧ first.internalType ≠ second.internalType

theorem ofSpec_eq_ok_iff : ofSpec spec = .ok c
    ↔ ∃ rules hints, Ruleset.parse spec.entityTransform = .ok rules
      ∧ Hints.parse spec.parseHints = .ok hints ∧ c = ⟨spec, rules, hints⟩ := by
  unfold ofSpec
  constructor
  · intro made
    obtain ⟨rules, first, more⟩ := Result.bind_eq_ok.1 made
    obtain ⟨hints, second, same⟩ := Result.bind_eq_ok.1 more
    exact ⟨rules, hints, first, second, (Except.ok.inj same).symm⟩
  · rintro ⟨rules, hints, first, second, rfl⟩
    rw [first, second]
    rfl

theorem spec_of_ofSpec (made : ofSpec spec = .ok c) : c.spec = spec := by
  obtain ⟨rules, hints, -, -, rfl⟩ := ofSpec_eq_ok_iff.1 made
  rfl

end CollectionSchema

namespace Registry

variable {r : Registry} {c : CollectionSchema} {spec : CollectionSpec}

/-- No two collections share a name or a type. -/
def Distinct (r : Registry) : Prop := r.entries.Pairwise CollectionSchema.Apart

/-- No collection has the name or one of the types of `c`. -/
def IsNew (r : Registry) (c : CollectionSchema) : Prop :=
  ∀ other ∈ r.entries, CollectionSchema.Apart other c

section Index

variable {key : CollectionSchema → String} {index : Dict Nat}

theorem Indexes.at?_eq_some_iff (indexes : Indexes key r.entries index) {k : String} :
    r.at? index k = some c ↔ c ∈ r.entries ∧ key c = k := by
  rw [at?, Option.bind_eq_some_iff]
  constructor
  · rintro ⟨i, position, found⟩
    obtain ⟨other, there, same⟩ := (indexes k i).1 position
    rw [found] at there
    cases there
    exact ⟨List.mem_of_getElem? found, same⟩
  · rintro ⟨mem, same⟩
    obtain ⟨i, found⟩ := List.mem_iff_getElem?.1 mem
    exact ⟨i, (indexes k i).2 ⟨c, found, same⟩, found⟩

theorem Indexes.get?_eq_none_iff {entries : List CollectionSchema}
    (indexes : Indexes key entries index) {k : String} :
    Dict.get? index k = none ↔ ∀ c ∈ entries, key c ≠ k := by
  rw [Option.eq_none_iff_forall_ne_some]
  constructor
  · intro none c mem same
    obtain ⟨i, found⟩ := List.mem_iff_getElem?.1 mem
    exact none i ((indexes k i).2 ⟨c, found, same⟩)
  · intro other i position
    obtain ⟨c, found, same⟩ := (indexes k i).1 position
    exact other c (List.mem_of_getElem? found) same

/-- An index has one position for a key, so the collections have different keys. -/
theorem Indexes.pairwise_ne {entries : List CollectionSchema}
    (indexes : Indexes key entries index) :
    entries.Pairwise fun first second => key first ≠ key second := by
  rw [List.pairwise_iff_getElem]
  intro i j inside within less same
  have first := (indexes (key entries[i]) i).2 ⟨_, List.getElem?_eq_getElem inside, rfl⟩
  have second := (indexes (key entries[i]) j).2 ⟨_, List.getElem?_eq_getElem within, same.symm⟩
  rw [first] at second
  exact absurd (Option.some.inj second) (Nat.ne_of_lt less)

end Index

theorem InStep.get?_eq_some_iff (inStep : r.InStep) {name : String} :
    r.get? name = some c ↔ c ∈ r.entries ∧ c.name = name := inStep.names.at?_eq_some_iff

theorem InStep.byExternalType?_eq_some_iff (inStep : r.InStep) {typeName : String} :
    r.byExternalType? typeName = some c ↔ c ∈ r.entries ∧ c.contains = typeName :=
  inStep.externals.at?_eq_some_iff

theorem InStep.byInternalType?_eq_some_iff (inStep : r.InStep) {typeName : String} :
    r.byInternalType? typeName = some c ↔ c ∈ r.entries ∧ c.internalType = typeName :=
  inStep.internals.at?_eq_some_iff

theorem InStep.distinct (inStep : r.InStep) : r.Distinct := by
  have types := inStep.externals.pairwise_ne.and inStep.internals.pairwise_ne
  exact (inStep.names.pairwise_ne.and types).imp id

theorem checkType_of_get?_eq_none {index : Dict Nat} {typeName : String}
    (free : Dict.get? index typeName = none) (name : String) :
    r.checkType index typeName name = .ok () := by
  rw [checkType, free]

/-- The check is whether a collection is new. -/
theorem InStep.check_eq_ok_iff (inStep : r.InStep) : r.check c = .ok () ↔ r.IsNew c := by
  constructor
  · intro free
    obtain ⟨named, external, internal⟩ := check_eq_ok free
    rw [inStep.names.get?_eq_none_iff] at named
    rw [inStep.externals.get?_eq_none_iff] at external
    rw [inStep.internals.get?_eq_none_iff] at internal
    exact fun other mem => ⟨named other mem, external other mem, internal other mem⟩
  · intro new
    have named : Dict.get? r.byName c.name = none :=
      inStep.names.get?_eq_none_iff.2 fun other mem => (new other mem).1
    have external : Dict.get? r.byExternal c.contains = none :=
      inStep.externals.get?_eq_none_iff.2 fun other mem => (new other mem).2.1
    have internal : Dict.get? r.byInternal c.internalType = none :=
      inStep.internals.get?_eq_none_iff.2 fun other mem => (new other mem).2.2
    rw [check, named, checkType_of_get?_eq_none external, checkType_of_get?_eq_none internal]
    rfl

theorem compile_eq_ok_iff : compile spec = .ok c ↔ CollectionSchema.ofSpec spec = .ok c := by
  unfold compile
  cases CollectionSchema.ofSpec spec with
  | error error => simp only [reduceCtorEq]
  | ok made => simp only [Except.ok.injEq]

/-- A call is answered with a collection exactly if its specification can be read and what it writes
down is new. -/
theorem InStep.attempt_eq_ok_iff (inStep : r.InStep) : (r.attempt spec).1 = .ok c
    ↔ CollectionSchema.ofSpec spec = .ok c ∧ r.IsNew c := by
  rw [attempt_eq, ← compile_eq_ok_iff]
  cases made : compile spec with
  | error error => simp only [reduceCtorEq, false_and]
  | ok own =>
    rw [Except.ok.injEq]
    cases free : r.check own with
    | error error =>
      simp only [free, reduceCtorEq, false_iff]
      rintro ⟨rfl, new⟩
      rw [inStep.check_eq_ok_iff.2 new] at free
      cases free
    | ok _ =>
      simp only [free, Except.ok.injEq]
      constructor
      · rintro rfl
        exact ⟨rfl, inStep.check_eq_ok_iff.1 free⟩
      · exact And.left

/-- After a call there is one collection more, with which it has been answered, or nothing has
changed. -/
theorem attempt_snd (r : Registry) (spec : CollectionSpec) :
    (r.attempt spec).2 = match (r.attempt spec).1 with
      | .ok c => r.insert c
      | .error _ => r := by
  rw [attempt_eq]
  cases compile spec with
  | error error => rfl
  | ok c =>
    cases free : r.check c with
    | error error => simp only [free]
    | ok _ => simp only [free]

end Registry

namespace Catalogue

variable {catalogue larger : Catalogue} {c : CollectionSchema} {typeName : String}

theorem mem_of_get? {name : String} (found : catalogue.get? name = some c) :
    c ∈ catalogue ∧ c.name = name := catalogue.inStep.get?_eq_some_iff.1 found

theorem mem_of_byExternalType? (found : catalogue.byExternalType? typeName = some c) :
    c ∈ catalogue ∧ c.contains = typeName :=
  catalogue.inStep.byExternalType?_eq_some_iff.1 found

theorem mem_of_byInternalType? (found : catalogue.byInternalType? typeName = some c) :
    c ∈ catalogue ∧ c.internalType = typeName :=
  catalogue.inStep.byInternalType?_eq_some_iff.1 found

/-- A collection is the one that its type from outside belongs to. -/
theorem byExternalType?_contains (mem : c ∈ catalogue) :
    catalogue.byExternalType? c.contains = some c :=
  catalogue.inStep.byExternalType?_eq_some_iff.2 ⟨mem, rfl⟩

/-- A collection is the one that its type from inside belongs to. -/
theorem byInternalType?_internalType (mem : c ∈ catalogue) :
    catalogue.byInternalType? c.internalType = some c :=
  catalogue.inStep.byInternalType?_eq_some_iff.2 ⟨mem, rfl⟩

theorem byExternalType?_eq_none (unknown : ∀ c ∈ catalogue, c.contains ≠ typeName) :
    catalogue.byExternalType? typeName = none := by
  refine Option.eq_none_iff_forall_ne_some.2 fun c found => ?_
  obtain ⟨mem, same⟩ := mem_of_byExternalType? found
  exact unknown c mem same

theorem byInternalType?_eq_none (unknown : ∀ c ∈ catalogue, c.internalType ≠ typeName) :
    catalogue.byInternalType? typeName = none := by
  refine Option.eq_none_iff_forall_ne_some.2 fun c found => ?_
  obtain ⟨mem, same⟩ := mem_of_byInternalType? found
  exact unknown c mem same

@[simp] theorem mem_sole {other : CollectionSchema} : other ∈ sole c ↔ other = c :=
  List.mem_singleton

theorem forall_mem_sole {p : CollectionSchema → Prop} (own : p c) : ∀ other ∈ sole c, p other :=
  List.forall_mem_singleton.2 own

theorem add_eq_ok_iff {spec : CollectionSpec} : catalogue.add spec = .ok larger
    ↔ ∃ c, (catalogue.attempt spec).1 = .ok c ∧ larger.toRegistry = catalogue.insert c := by
  rw [add, Result.map_eq_ok]
  refine exists_congr fun c => and_congr_right fun answered => ?_
  cases larger
  rw [mk.injEq, catalogue.attempt_snd, answered]
  exact eq_comm

/-- What is added comes after what was there, one collection for each specification. -/
theorem entries_of_foldlM_add {specs : List CollectionSpec}
    (built : specs.foldlM add catalogue = .ok larger) :
    ∃ added, List.Forall₂ (fun spec c => CollectionSchema.ofSpec spec = .ok c) specs added
      ∧ larger.entries = catalogue.entries ++ added := by
  induction specs generalizing catalogue with
  | nil =>
    cases built
    exact ⟨[], .nil, (List.append_nil _).symm⟩
  | cons spec specs ih =>
    rw [List.foldlM_cons] at built
    obtain ⟨next, first, more⟩ := Result.bind_eq_ok.1 built
    obtain ⟨c, answered, grown⟩ := add_eq_ok_iff.1 first
    obtain ⟨added, each, same⟩ := ih more
    refine ⟨c :: added, .cons (catalogue.inStep.attempt_eq_ok_iff.1 answered).1 each, ?_⟩
    rw [same, grown, Registry.insert, List.append_assoc, List.singleton_append]

theorem exists_foldlM_add {specs : List CollectionSpec} {added : List CollectionSchema}
    (each : List.Forall₂ (fun spec c => CollectionSchema.ofSpec spec = .ok c) specs added)
    (apart : (catalogue.entries ++ added).Pairwise CollectionSchema.Apart) :
    ∃ larger, specs.foldlM add catalogue = .ok larger := by
  induction each generalizing catalogue with
  | nil => exact ⟨catalogue, rfl⟩
  | @cons spec c specs added made _ ih =>
    have new : catalogue.IsNew c := fun other mem =>
      (List.pairwise_append.1 apart).2.2 other mem c List.mem_cons_self
    obtain ⟨next, first⟩ : ∃ next, catalogue.add spec = .ok next :=
      Result.exists_map_eq_ok.2 ⟨c, catalogue.inStep.attempt_eq_ok_iff.2 ⟨made, new⟩⟩
    obtain ⟨own, answered, grown⟩ := add_eq_ok_iff.1 first
    rw [catalogue.inStep.attempt_eq_ok_iff.2 ⟨made, new⟩] at answered
    cases answered
    have more : (next.entries ++ added).Pairwise CollectionSchema.Apart := by
      rwa [grown, Registry.insert, List.append_assoc, List.singleton_append]
    obtain ⟨larger, rest⟩ := ih more
    exact ⟨larger, Result.bind_eq_ok.2 ⟨next, first, rest⟩⟩

/-- A catalogue has a collection for each of its specifications, in their order. -/
theorem entries_of_ofSpecs {specs : List CollectionSpec} (built : ofSpecs specs = .ok catalogue) :
    List.Forall₂ (fun spec c => CollectionSchema.ofSpec spec = .ok c) specs catalogue.entries := by
  obtain ⟨added, each, same⟩ := entries_of_foldlM_add built
  rw [same]
  exact each

theorem exists_spec_of_ofSpecs {specs : List CollectionSpec} (built : ofSpecs specs = .ok catalogue)
    (mem : c ∈ catalogue) : ∃ spec ∈ specs, CollectionSchema.ofSpec spec = .ok c :=
  Result.exists_of_mem_right (entries_of_ofSpecs built) mem

/-- A collection stays in its catalogue when further ones are added. -/
theorem mem_of_ofSpecs_append {specs more : List CollectionSpec}
    (built : ofSpecs specs = .ok catalogue) (mem : c ∈ catalogue)
    (grown : ofSpecs (specs ++ more) = .ok larger) : c ∈ larger := by
  unfold ofSpecs at built grown
  rw [List.foldlM_append, built] at grown
  have rest : more.foldlM add catalogue = .ok larger := grown
  obtain ⟨added, -, same⟩ := entries_of_foldlM_add rest
  change c ∈ larger.entries
  rw [same]
  exact List.mem_append_left added mem

end Catalogue

end RestService
