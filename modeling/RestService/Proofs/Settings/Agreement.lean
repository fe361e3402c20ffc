import RestService.Proofs.Collection.Register
import RestService.Settings.Service

set_option autoImplicit false

namespace RestService

/-- The type that the rules of a specification give its records, if they can be read. -/
def CollectionSpec.internalType? (spec : CollectionSpec) : Option String :=
  (Ruleset.parse spec.entityTransform).toOption.map fun rules => rules.internalType spec.contains

/-- The name and the contained type say something. -/
def CollectionSpec.IsNamed (spec : CollectionSpec) : Prop :=
  Text.isAllBlank spec.name = false ∧ Text.isAllBlank spec.contains = false

/-- The issues that are about a collection beside others, and about its sources. -/
def SettingsIssue.barsCollection : SettingsIssue → Bool
  | duplicateName _ | duplicateContains _ _ | rules _ _ | hints _ _ => true
  | invalid _ _ | emptyName _ | emptyContains _ => false

namespace Settings

variable {specs earlier : List CollectionSpec} {spec : CollectionSpec}

/-- The names and the contained types of two specifications differ. -/
def Apart (first second : CollectionSpec) : Prop :=
  first.name ≠ second.name ∧ first.contains ≠ second.contains

theorem issueIf_eq_nil_iff {condition : Bool} {issue : SettingsIssue} :
    issueIf condition issue = [] ↔ condition = false := by
  cases condition <;> simp [issueIf]

theorem sourceIssues_eq_nil_iff {α : Type} {issue : SourceError → SettingsIssue}
    {read : Except SourceError α} : sourceIssues issue read = [] ↔ ∃ a, read = .ok a := by
  cases read <;> simp [sourceIssues]

/-- A collection with a name has no issue exactly if it has a contained type, both are new, and its
sources can be read. -/
theorem namedIssues_eq_nil_iff : namedIssues earlier spec = []
    ↔ Text.isAllBlank spec.contains = false ∧ (∀ other ∈ earlier, Apart other spec)
      ∧ ∃ c, CollectionSchema.ofSpec spec = .ok c := by
  have taken (f : CollectionSpec → String) : (earlier.any fun other => f other == f spec) = false
      ↔ ∀ other ∈ earlier, f other ≠ f spec := by
    simp
  have sources : (∃ c, CollectionSchema.ofSpec spec = .ok c)
      ↔ (∃ rules, Ruleset.parse spec.entityTransform = .ok rules)
        ∧ ∃ hints, Hints.parse spec.parseHints = .ok hints := by
    constructor
    · rintro ⟨c, made⟩
      obtain ⟨rules, hints, first, second, -⟩ := CollectionSchema.ofSpec_eq_ok_iff.1 made
      exact ⟨⟨rules, first⟩, hints, second⟩
    · rintro ⟨⟨rules, first⟩, hints, second⟩
      exact ⟨_, CollectionSchema.ofSpec_eq_ok_iff.2 ⟨rules, hints, first, second, rfl⟩⟩
  rw [namedIssues, sources]
  simp only [List.append_eq_nil_iff, issueIf_eq_nil_iff, sourceIssues_eq_nil_iff, taken]
  cases blank : Text.isAllBlank spec.contains with
  | true => simp
  | false =>
    simp only [Bool.false_eq_true, if_false, issueIf_eq_nil_iff, taken, Apart, true_and]
    constructor
    · rintro ⟨⟨⟨names, contained⟩, rules⟩, hints⟩
      exact ⟨fun other mem => ⟨names other mem, contained other mem⟩, rules, hints⟩
    · rintro ⟨apart, rules, hints⟩
      exact ⟨⟨⟨fun other mem => (apart other mem).1, fun other mem => (apart other mem).2⟩, rules⟩,
        hints⟩

/-- Collections have no issue exactly if each has a name and a contained type, no two share one, and
all sources can be read. -/
theorem collectionIssues_eq_nil_iff {index : Nat} : collectionIssues index earlier specs = []
    ↔ (∀ spec ∈ specs, spec.IsNamed ∧ ∃ c, CollectionSchema.ofSpec spec = .ok c)
      ∧ specs.Pairwise Apart ∧ ∀ other ∈ earlier, ∀ spec ∈ specs, Apart other spec := by
  induction specs generalizing index earlier with
  | nil => simp [collectionIssues]
  | cons spec specs ih =>
    rw [collectionIssues]
    cases blank : Text.isAllBlank spec.name with
    | true => simp [CollectionSpec.IsNamed, blank]
    | false =>
      rw [if_neg Bool.false_ne_true, List.append_eq_nil_iff, namedIssues_eq_nil_iff, ih,
        List.forall_mem_cons, List.pairwise_cons, CollectionSpec.IsNamed, blank]
      constructor
      · rintro ⟨⟨contained, new, read⟩, each, apart, before⟩
        obtain ⟨old, here⟩ := List.forall_mem_append.1 before
        rw [List.forall_mem_singleton] at here
        exact ⟨⟨⟨⟨rfl, contained⟩, read⟩, each⟩, ⟨here, apart⟩, fun other mem =>
          List.forall_mem_cons.2 ⟨new other mem, old other mem⟩⟩
      · rintro ⟨⟨⟨⟨-, contained⟩, read⟩, each⟩, ⟨here, apart⟩, before⟩
        refine ⟨⟨contained, fun other mem => before other mem spec List.mem_cons_self, read⟩, each,
          apart, List.forall_mem_append.2 ⟨fun other mem later inside => ?_, ?_⟩⟩
        · exact before other mem later (List.mem_cons_of_mem spec inside)
        · exact List.forall_mem_singleton.2 here

theorem barsCollection_of_mem_namedIssues {issue : SettingsIssue}
    (contained : Text.isAllBlank spec.contains = false) (mem : issue ∈ namedIssues earlier spec) :
    issue.barsCollection = true := by
  have taken {condition : Bool} {shared : SettingsIssue} (bars : shared.barsCollection = true)
      (mem : issue ∈ issueIf condition shared) : issue.barsCollection = true := by
    cases condition with
    | true => exact List.mem_singleton.1 mem ▸ bars
    | false => exact absurd mem List.not_mem_nil
  have source {α : Type} {wrong : SourceError → SettingsIssue} {read : Except SourceError α}
      (bars : ∀ error, (wrong error).barsCollection = true)
      (mem : issue ∈ sourceIssues wrong read) : issue.barsCollection = true := by
    cases read with
    | ok a => exact absurd mem List.not_mem_nil
    | error error => exact List.mem_singleton.1 mem ▸ bars error
  rw [namedIssues, contained] at mem
  simp only [List.mem_append, Bool.false_eq_true, if_false] at mem
  rcases mem with ((named | type) | rules) | hints
  · exact taken rfl named
  · exact taken rfl type
  · exact source (fun _ => rfl) rules
  · exact source (fun _ => rfl) hints

/-- Collections with names and contained types have no other issues. -/
theorem barsCollection_of_mem_collectionIssues {index : Nat} {issue : SettingsIssue}
    (named : ∀ spec ∈ specs, spec.IsNamed) (mem : issue ∈ collectionIssues index earlier specs) :
    issue.barsCollection = true := by
  induction specs generalizing index earlier with
  | nil => exact absurd mem List.not_mem_nil
  | cons spec specs ih =>
    obtain ⟨⟨name, contained⟩, others⟩ := List.forall_mem_cons.1 named
    rw [collectionIssues, name, if_neg Bool.false_ne_true, List.mem_append] at mem
    rcases mem with here | later
    · exact barsCollection_of_mem_namedIssues contained here
    · exact ih others later

/-- What is wrong elsewhere does not keep a collection out. -/
theorem issues_eq_append (s : Settings) :
    ∃ others, s.issues = others ++ collectionIssues 0 [] s.collections
      ∧ ∀ issue ∈ others, issue.barsCollection = false := by
  have one {condition : Bool} {setting reason : String} :
      ∀ issue ∈ issueIf condition (.invalid setting reason), issue.barsCollection = false := by
    cases condition <;> simp [issueIf, SettingsIssue.barsCollection]
  refine ⟨_, rfl, ?_⟩
  simp only [List.forall_mem_append]
  refine ⟨⟨⟨⟨⟨one, one⟩, one⟩, ?_⟩, List.forall_mem_append.2 ⟨one, fun issue mem => ?_⟩⟩, ?_⟩
  · split
    · exact one
    · exact List.forall_mem_nil _
  · obtain ⟨name, -, here⟩ := List.mem_flatMap.1 mem
    exact one issue here
  · unfold urlIssues
    split
    · exact List.forall_mem_nil _
    · split
      · exact List.forall_mem_nil _
      · exact List.forall_mem_singleton.2 rfl

/-- Collections with names and contained types have no issue exactly if none keeps one of them out.
-/
theorem forall_barsCollection_eq_false_iff {s : Settings}
    (named : ∀ spec ∈ s.collections, spec.IsNamed) :
    (∀ issue ∈ s.issues, issue.barsCollection = false)
      ↔ collectionIssues 0 [] s.collections = [] := by
  obtain ⟨others, split, pass⟩ := issues_eq_append s
  rw [split, List.forall_mem_append, and_iff_right pass]
  constructor
  · intro none
    refine List.eq_nil_iff_forall_not_mem.2 fun issue mem => ?_
    have bars := barsCollection_of_mem_collectionIssues named mem
    rw [none issue mem] at bars
    cases bars
  · intro empty
    rw [empty]
    exact List.forall_mem_nil _

theorem internalType?_of_ofSpec {c : CollectionSchema}
    (made : CollectionSchema.ofSpec spec = .ok c) :
    spec.internalType? = some c.internalType := by
  obtain ⟨rules, hints, first, -, rfl⟩ := CollectionSchema.ofSpec_eq_ok_iff.1 made
  rw [CollectionSpec.internalType?, first]
  rfl

section Catalogue

variable {cs : List CollectionSchema}

/-- Collections read from specifications show them again, and their types inside. -/
theorem map_of_ofSpec
    (each : List.Forall₂ (fun spec c => CollectionSchema.ofSpec spec = .ok c) specs cs) :
    cs.map CollectionSchema.spec = specs
      ∧ cs.map CollectionSchema.internalType = specs.filterMap CollectionSpec.internalType? := by
  induction each with
  | nil => exact ⟨rfl, rfl⟩
  | cons made _ ih =>
    refine ⟨?_, ?_⟩
    · rw [List.map_cons, ih.1, CollectionSchema.spec_of_ofSpec made]
    · rw [List.map_cons, ih.2, List.filterMap_cons, internalType?_of_ofSpec made]

theorem pairwise_apart_iff : cs.Pairwise CollectionSchema.Apart
    ↔ (cs.map CollectionSchema.spec).Pairwise Apart
      ∧ (cs.map CollectionSchema.internalType).Nodup := by
  rw [List.Nodup, List.pairwise_map, List.pairwise_map, ← List.pairwise_and_iff]
  exact List.Pairwise.iff fun first second => and_assoc.symm

/-- Specifications make a catalogue exactly if all can be read, and names, contained types and types
inside are apart. -/
theorem exists_ofSpecs_iff : (∃ catalogue, Catalogue.ofSpecs specs = .ok catalogue)
    ↔ (∀ spec ∈ specs, ∃ c, CollectionSchema.ofSpec spec = .ok c) ∧ specs.Pairwise Apart
      ∧ (specs.filterMap CollectionSpec.internalType?).Nodup := by
  constructor
  · rintro ⟨catalogue, built⟩
    have each := Catalogue.entries_of_ofSpecs built
    obtain ⟨shown, types⟩ := map_of_ofSpec each
    have distinct := catalogue.inStep.distinct
    rw [Registry.Distinct, pairwise_apart_iff, shown, types] at distinct
    refine ⟨fun spec mem => ?_, distinct⟩
    obtain ⟨c, -, made⟩ := Result.exists_of_mem_left each mem
    exact ⟨c, made⟩
  · rintro ⟨readable, apart⟩
    obtain ⟨cs, each⟩ := Result.exists_forall₂ readable
    obtain ⟨shown, types⟩ := map_of_ofSpec each
    refine Catalogue.exists_foldlM_add each ?_
    change cs.Pairwise CollectionSchema.Apart
    rw [pairwise_apart_iff, shown, types]
    exact apart

end Catalogue

/-- Charsets have no issue exactly if there is one and all are known. -/
theorem charsetIssues_eq_nil_iff {names : List String} : charsetIssues names = []
    ↔ names ≠ [] ∧ ∀ name ∈ names, ∃ usual, Charset.canonical? name = some usual := by
  simp [charsetIssues, issueIf_eq_nil_iff, Option.isSome_iff_exists, List.isEmpty_eq_false_iff]

theorem exists_usualCharsets {names : List String} (fine : charsetIssues names = []) :
    ∃ usual, Blueprint.usualCharsets names = .ok usual := by
  obtain ⟨some', known⟩ := charsetIssues_eq_nil_iff.1 fine
  obtain ⟨usual, each⟩ := Result.exists_forall₂ known
  have filled : usual.isEmpty ≠ true := by
    rw [Ne, List.isEmpty_iff, ← List.length_eq_zero_iff, ← each.length_eq, List.length_eq_zero_iff]
    exact some'
  refine ⟨usual, Result.bind_eq_ok.2 ⟨usual, Result.mapM_eq_ok.2 ?_, if_neg filled⟩⟩
  refine each.imp fun name usual found => ?_
  rw [found]

/-- Collections with names and contained types make a catalogue exactly if no issue keeps one of
them out and the types that they have inside are apart. So the settings without an issue, of which
these types are apart, are those of an application, however it is made beside its collections and
its charsets. -/
theorem ofSpecs_iff_issues (s : Settings) :
    ((∀ spec ∈ s.collections, spec.IsNamed) →
      ((∃ catalogue, Catalogue.ofSpecs s.collections = .ok catalogue)
        ↔ (∀ issue ∈ s.issues, issue.barsCollection = false)
          ∧ (s.collections.filterMap CollectionSpec.internalType?).Nodup))
    ∧ (s.issues = [] → (s.collections.filterMap CollectionSpec.internalType?).Nodup →
      ∀ (σ : Type) (b : Blueprint σ), b.collections = s.collections → b.charsets = s.charsets →
        ∃ app, b.build = .ok app) := by
  have whole {s : Settings} (fine : collectionIssues 0 [] s.collections = []) :
      (∃ catalogue, Catalogue.ofSpecs s.collections = .ok catalogue)
        ↔ (s.collections.filterMap CollectionSpec.internalType?).Nodup := by
    obtain ⟨each, apart, -⟩ := collectionIssues_eq_nil_iff.1 fine
    rw [exists_ofSpecs_iff, and_iff_right fun spec mem => (each spec mem).2, and_iff_right apart]
  refine ⟨fun named => ?_, ?_⟩
  · rw [forall_barsCollection_eq_false_iff named]
    constructor
    · intro built
      obtain ⟨readable, apart, -⟩ := exists_ofSpecs_iff.1 built
      have fine : collectionIssues 0 [] s.collections = [] :=
        collectionIssues_eq_nil_iff.2 ⟨fun spec mem => ⟨named spec mem, readable spec mem⟩, apart,
          List.forall_mem_nil _⟩
      exact ⟨fine, (whole fine).1 built⟩
    · rintro ⟨fine, types⟩
      exact (whole fine).2 types
  · intro fine types σ b sameCollections sameCharsets
    rw [issues] at fine
    obtain ⟨others, collections⟩ := List.append_eq_nil_iff.1 fine
    obtain ⟨others, -⟩ := List.append_eq_nil_iff.1 others
    obtain ⟨-, charsets⟩ := List.append_eq_nil_iff.1 others
    obtain ⟨catalogue, built⟩ := (whole collections).2 types
    obtain ⟨usual, named⟩ := exists_usualCharsets charsets
    unfold Blueprint.build
    rw [sameCollections, sameCharsets, built, named]
    exact ⟨_, rfl⟩

/-- Settings with two collections, one of which has a type of its own inside. -/
def shelves : Settings where
  collections := [Registry.capitalBooks.spec, { name := "tags", contains := "tag" }]

theorem ofSpecs_iff_issues_shelves :
    (∀ spec ∈ shelves.collections, spec.IsNamed) ∧ shelves.issues = []
      ∧ (shelves.collections.filterMap CollectionSpec.internalType?).Nodup
      ∧ (∃ catalogue, Catalogue.ofSpecs shelves.collections = .ok catalogue)
      ∧ ∃ app, shelves.blueprint.build = .ok app := by
  have named : ∀ spec ∈ shelves.collections, spec.IsNamed := by
    unfold CollectionSpec.IsNamed
    decide +kernel
  have fine : shelves.issues = [] := by decide +kernel
  have types : (shelves.collections.filterMap CollectionSpec.internalType?).Nodup := by
    decide +kernel
  obtain ⟨built, app⟩ := ofSpecs_iff_issues shelves
  refine ⟨named, fine, types, (built named).2 ⟨?_, types⟩, app fine types _ _ rfl rfl⟩
  rw [fine]
  exact List.forall_mem_nil _

end Settings

end RestService
