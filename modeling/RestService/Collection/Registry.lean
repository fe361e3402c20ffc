import RestService.Collection.Schema
import RestService.Fallible

set_option autoImplicit false

namespace RestService

/-- Why a collection cannot be registered. -/
inductive CatalogueError
  | illegalSource (collection : String) (error : SourceError)
  | duplicateName (name : String)
  | duplicateType (typeName first second : String)
  deriving DecidableEq, Repr

def CatalogueError.message : CatalogueError → String
  | illegalSource collection error => s!"collection '{collection}': {error.message}"
  | duplicateName name => s!"collection '{name}' registered twice"
  | duplicateType typeName first second =>
    s!"type '{typeName}' is claimed by both '{first}' and '{second}'"

/-- Collections in the order in which they were registered, and the positions at which there are
those of a name, of a type of records as clients see it, and of a type of records inside. -/
structure Registry where
  entries : List CollectionSchema := []
  byName : Dict Nat := []
  byExternal : Dict Nat := []
  byInternal : Dict Nat := []
  deriving DecidableEq, Repr

namespace Registry

/-- The collection at the position that an index has for a key. -/
def at? (r : Registry) (index : Dict Nat) (key : String) : Option CollectionSchema :=
  (Dict.get? index key).bind fun i => r.entries[i]?

def get? (r : Registry) (name : String) : Option CollectionSchema := r.at? r.byName name

def byExternalType? (r : Registry) (typeName : String) : Option CollectionSchema :=
  r.at? r.byExternal typeName

def byInternalType? (r : Registry) (typeName : String) : Option CollectionSchema :=
  r.at? r.byInternal typeName

/-- Fails if an index has a position for a type already. -/
def checkType (r : Registry) (index : Dict Nat) (typeName name : String) :
    Except CatalogueError Unit :=
  match Dict.get? index typeName with
  | some i =>
    let first := (r.entries[i]?.map CollectionSchema.name).getD ""
    .error (.duplicateType typeName first name)
  | none => .ok ()

/-- Fails if the name or a type of a collection has been claimed. -/
def check (r : Registry) (c : CollectionSchema) : Except CatalogueError Unit := do
  if (Dict.get? r.byName c.name).isSome then throw (.duplicateName c.name)
  r.checkType r.byExternal c.contains c.name
  r.checkType r.byInternal c.internalType c.name

/-- The schema that a specification writes down. -/
def compile (spec : CollectionSpec) : Except CatalogueError CollectionSchema :=
  match CollectionSchema.ofSpec spec with
  | .ok c => .ok c
  | .error error => .error (.illegalSource spec.name error)

def register (spec : CollectionSpec) :
    Fallible CatalogueError Registry CollectionSchema := do
  let c ← .ofResult (compile spec)
  let r ← get
  .ofResult (r.check c)
  let index := r.entries.length
  modify fun r => { r with byName := Dict.insert r.byName c.name index }
  modify fun r => { r with byExternal := Dict.insert r.byExternal c.contains index }
  modify fun r => { r with byInternal := Dict.insert r.byInternal c.internalType index }
  modify fun r => { r with entries := r.entries ++ [c] }
  return c

/-- What a call is answered with, and the registry after it. -/
def attempt (r : Registry) (spec : CollectionSpec) :
    Except CatalogueError CollectionSchema × Registry := (register spec).run.run r

/-- The registry after calls one after the other, whichever of them fail. -/
def attempts (specs : List CollectionSpec) : Registry :=
  specs.foldl (fun r spec => (r.attempt spec).2) {}

def insert (r : Registry) (c : CollectionSchema) : Registry where
  entries := r.entries ++ [c]
  byName := Dict.insert r.byName c.name r.entries.length
  byExternal := Dict.insert r.byExternal c.contains r.entries.length
  byInternal := Dict.insert r.byInternal c.internalType r.entries.length

/-- What a call does: it fails and leaves the registry alone, or a collection that has passed the
check is added. -/
theorem attempt_eq (r : Registry) (spec : CollectionSpec) :
    r.attempt spec = match compile spec with
      | .error error => (.error error, r)
      | .ok c =>
        match r.check c with
        | .error error => (.error error, r)
        | .ok _ => (.ok c, r.insert c) := by
  simp only [attempt, register, Fallible.run_bind, Fallible.run_ofResult]
  cases compile spec with
  | error error => rfl
  | ok c =>
    simp only [Fallible.run_get]
    cases r.check c <;> rfl

/-- The positions of an index are those of the collections with its keys. -/
def Indexes (key : CollectionSchema → String) (entries : List CollectionSchema)
    (index : Dict Nat) : Prop :=
  ∀ k i, Dict.get? index k = some i ↔ ∃ c, entries[i]? = some c ∧ key c = k

theorem Indexes.insert {key : CollectionSchema → String} {entries : List CollectionSchema}
    {index : Dict Nat} (indexes : Indexes key entries index) {c : CollectionSchema}
    (new : Dict.get? index (key c) = none) :
    Indexes key (entries ++ [c]) (Dict.insert index (key c) entries.length) := by
  intro k i
  rw [Dict.get?_insert, List.getElem?_append]
  by_cases own : k = key c
  · subst own
    rw [if_pos rfl]
    constructor
    · intro same
      cases same
      exact ⟨c, by simp, rfl⟩
    · rintro ⟨other, found, same⟩
      by_cases inside : i < entries.length
      · rw [if_pos inside] at found
        rw [(indexes (key c) i).2 ⟨other, found, same⟩] at new
        cases new
      · rw [if_neg inside] at found
        have last := (List.getElem?_eq_some_iff.1 found).1
        rw [List.length_singleton] at last
        exact congrArg some (by omega)
  · rw [if_neg own, indexes k i]
    by_cases inside : i < entries.length
    · rw [if_pos inside]
    · rw [if_neg inside, List.getElem?_eq_none (Nat.le_of_not_lt inside)]
      constructor
      · rintro ⟨other, found, -⟩
        cases found
      · rintro ⟨other, found, same⟩
        have mem := List.mem_of_getElem? found
        rw [List.mem_singleton.1 mem] at same
        exact absurd same.symm own

/-- All indexes are in step with the collections. -/
structure InStep (r : Registry) : Prop where
  names : Indexes CollectionSchema.name r.entries r.byName
  externals : Indexes CollectionSchema.contains r.entries r.byExternal
  internals : Indexes CollectionSchema.internalType r.entries r.byInternal

theorem inStep_empty : InStep {} := by
  have none (key : CollectionSchema → String) : Indexes key [] [] := by
    intro k i
    constructor
    · intro found
      cases found
    · rintro ⟨c, found, -⟩
      cases found
  exact ⟨none _, none _, none _⟩

theorem get?_eq_none_of_checkType {r : Registry} {index : Dict Nat} {typeName name : String}
    {u : Unit} (free : r.checkType index typeName name = .ok u) :
    Dict.get? index typeName = none := by
  unfold checkType at free
  split at free
  · cases free
  · assumption

theorem check_eq_ok {r : Registry} {c : CollectionSchema} {u : Unit} (free : r.check c = .ok u) :
    Dict.get? r.byName c.name = none ∧ Dict.get? r.byExternal c.contains = none
      ∧ Dict.get? r.byInternal c.internalType = none := by
  unfold check at free
  split at free
  · cases free
  · rename_i unnamed
    have named : Dict.get? r.byName c.name = none := by
      rwa [Option.not_isSome_iff_eq_none] at unnamed
    refine ⟨named, ?_⟩
    cases external : r.checkType r.byExternal c.contains c.name with
    | error error =>
      rw [external] at free
      cases free
    | ok _ =>
      rw [external] at free
      exact ⟨get?_eq_none_of_checkType external, get?_eq_none_of_checkType free⟩

theorem InStep.insert {r : Registry} (inStep : r.InStep) {c : CollectionSchema}
    {u : Unit} (free : r.check c = .ok u) : (r.insert c).InStep := by
  obtain ⟨named, external, internal⟩ := check_eq_ok free
  exact ⟨inStep.names.insert named, inStep.externals.insert external,
    inStep.internals.insert internal⟩

/-- A call keeps all indexes in step, whether or not it succeeds. -/
theorem InStep.attempt {r : Registry} (inStep : r.InStep) (spec : CollectionSpec) :
    (r.attempt spec).2.InStep := by
  rw [attempt_eq]
  cases compile spec with
  | error error => exact inStep
  | ok c =>
    cases free : r.check c with
    | error error =>
      simp only [free]
      exact inStep
    | ok _ =>
      simp only [free]
      exact inStep.insert free

end Registry

end RestService
