import RestService.Resource.Value

set_option autoImplicit false

namespace RestService.Value

theorem induct {P : Value → Prop} (scalar : ∀ v, v.isScalar = true → P v)
    (list : ∀ items, (∀ item ∈ items, P item) → P (.list items))
    (mapping : ∀ fields, (∀ entry ∈ fields, P entry.2) → P (.mapping fields))
    (resource : ∀ typeName fields, (∀ entry ∈ fields, P entry.2) → P (.resource typeName fields))
    (v : Value) : P v :=
  Value.rec (motive_1 := P) (motive_2 := fun items => ∀ item ∈ items, P item)
    (motive_3 := fun fields => ∀ entry ∈ fields, P entry.2) (motive_4 := fun entry => P entry.2)
    (scalar .null rfl) (fun b => scalar (.bool b) rfl) (fun n => scalar (.int n) rfl)
    (fun x => scalar (.float x) rfl) (fun s => scalar (.text s) rfl) list mapping resource
    (List.forall_mem_nil _) (fun _ _ here later => List.forall_mem_cons.2 ⟨here, later⟩)
    (List.forall_mem_nil _) (fun _ _ here later => List.forall_mem_cons.2 ⟨here, later⟩)
    (fun _ _ here => here) v

/-- There is no mapping in a value, and `P` holds of the type and the fields of every record. -/
inductive Records (P : String → Fields → Prop) : Value → Prop
  | scalar {v : Value} (simple : v.isScalar = true) : Records P v
  | list {items : List Value} (inner : ∀ item ∈ items, Records P item) : Records P (.list items)
  | resource {typeName : String} {fields : Fields} (here : P typeName fields)
      (inner : ∀ entry ∈ fields, Records P entry.2) : Records P (.resource typeName fields)

theorem Records.of_list {P : String → Fields → Prop} {items : List Value}
    (records : Records P (.list items)) : ∀ item ∈ items, Records P item := by
  cases records with
  | scalar simple => cases simple
  | list inner => exact inner

theorem Records.of_resource {P : String → Fields → Prop} {typeName : String} {fields : Fields}
    (records : Records P (.resource typeName fields)) :
    P typeName fields ∧ ∀ entry ∈ fields, Records P entry.2 := by
  cases records with
  | scalar simple => cases simple
  | resource here inner => exact ⟨here, inner⟩

theorem Records.not_mapping {P : String → Fields → Prop} {fields : Fields}
    (records : Records P (.mapping fields)) : False := by
  cases records with
  | scalar simple => cases simple

theorem Records.mono {P Q : String → Fields → Prop} {v : Value} (records : Records P v)
    (weaker : ∀ typeName fields, P typeName fields → Q typeName fields) : Records Q v := by
  induction records with
  | scalar simple => exact .scalar simple
  | list inner ih => exact .list ih
  | resource here inner ih => exact .resource (weaker _ _ here) ih

/-- There is no mapping in a value, so every record has a type. -/
abbrev Typed (v : Value) : Prop := v.Records fun _ _ => True

/-- A list with no list directly in it, or no list at all. -/
def Flat (v : Value) : Prop := ∀ items, v = .list items → ∀ item ∈ items, ∀ inner, item ≠ .list inner

/-- `P` holds of a value and of every value in it. -/
inductive Everywhere (P : Value → Prop) : Value → Prop
  | scalar {v : Value} (simple : v.isScalar = true) (here : P v) : Everywhere P v
  | list {items : List Value} (here : P (.list items))
      (inner : ∀ item ∈ items, Everywhere P item) : Everywhere P (.list items)
  | mapping {fields : Fields} (here : P (.mapping fields))
      (inner : ∀ entry ∈ fields, Everywhere P entry.2) : Everywhere P (.mapping fields)
  | resource {typeName : String} {fields : Fields} (here : P (.resource typeName fields))
      (inner : ∀ entry ∈ fields, Everywhere P entry.2) : Everywhere P (.resource typeName fields)

section Everywhere

variable {P : Value → Prop}

theorem everywhere_of_isScalar {v : Value} (simple : v.isScalar = true) :
    v.Everywhere P ↔ P v := by
  refine ⟨fun all => ?_, .scalar simple⟩
  cases all with
  | scalar _ here => exact here
  | _ => cases simple

theorem everywhere_list {items : List Value} :
    Everywhere P (.list items) ↔ P (.list items) ∧ ∀ item ∈ items, item.Everywhere P := by
  refine ⟨fun all => ?_, fun all => .list all.1 all.2⟩
  cases all with
  | scalar simple => cases simple
  | list here inner => exact ⟨here, inner⟩

theorem everywhere_mapping {fields : Fields} :
    Everywhere P (.mapping fields)
      ↔ P (.mapping fields) ∧ ∀ entry ∈ fields, entry.2.Everywhere P := by
  refine ⟨fun all => ?_, fun all => .mapping all.1 all.2⟩
  cases all with
  | scalar simple => cases simple
  | mapping here inner => exact ⟨here, inner⟩

theorem everywhere_resource {typeName : String} {fields : Fields} :
    Everywhere P (.resource typeName fields)
      ↔ P (.resource typeName fields) ∧ ∀ entry ∈ fields, entry.2.Everywhere P := by
  refine ⟨fun all => ?_, fun all => .resource all.1 all.2⟩
  cases all with
  | scalar simple => cases simple
  | resource here inner => exact ⟨here, inner⟩

theorem Everywhere.mono {Q : Value → Prop} {v : Value} (all : v.Everywhere P)
    (weaker : ∀ v, P v → Q v) : v.Everywhere Q := by
  induction all with
  | scalar simple here => exact .scalar simple (weaker _ here)
  | list here inner ih => exact .list (weaker _ here) ih
  | mapping here inner ih => exact .mapping (weaker _ here) ih
  | resource here inner ih => exact .resource (weaker _ here) ih

end Everywhere

/-- `P` holds of the type, if there is one, and of the names of the fields of every record. -/
def Labelled (P : Option String → List String → Prop) (v : Value) : Prop :=
  v.Everywhere fun
    | .mapping fields => P none (Dict.keys fields)
    | .resource typeName fields => P (some typeName) (Dict.keys fields)
    | _ => True

theorem labelled_of_isScalar (P : Option String → List String → Prop) {v : Value}
    (simple : v.isScalar = true) : v.Labelled P := by
  cases v with
  | list | mapping | resource => cases simple
  | _ => exact .scalar rfl trivial

/-- No field of a record has the name under which its type is sent. -/
def Unreserved (v : Value) : Prop := v.Labelled fun _ names => typeKey ∉ names

/-- The fields of every record are in order, and none of them is in the place of its type. -/
def Orderly (v : Value) : Prop :=
  v.Everywhere fun
    | .mapping fields | .resource _ fields => Dict.Sorted fields ∧ typeKey ∉ Dict.keys fields
    | _ => True

theorem unreserved_of_orderly {v : Value} (orderly : v.Orderly) : v.Unreserved :=
  orderly.mono fun v here => by
    cases v with
    | mapping fields | resource typeName fields => exact here.2
    | _ => trivial

end RestService.Value
