import RestService.Collection.Transform
import RestService.Proofs.Resource.Value
import RestService.Proofs.Result

set_option autoImplicit false

namespace RestService.Transform

variable (catalogue : Catalogue) (hints : Hints)

def forwardField (path : String) (entry : String × Value) :
    Except TransformError (String × Value) :=
  (forwardNode catalogue hints (fieldPath path entry.1) entry.2).map (entry.1, ·)

theorem forwardItems_eq_mapM (path : String) (items : List Value) :
    forwardItems catalogue hints path items = items.mapM (forwardNode catalogue hints path) := by
  induction items with
  | nil => rw [forwardItems, List.mapM_nil]; rfl
  | cons item items ih => rw [forwardItems, List.mapM_cons, ih]

theorem forwardFields_eq_mapM (path : String) (fields : List (String × Value)) :
    forwardFields catalogue hints path fields
      = fields.mapM (forwardField catalogue hints path) := by
  induction fields with
  | nil => rw [forwardFields, List.mapM_nil]; rfl
  | cons entry fields ih =>
    obtain ⟨field, item⟩ := entry
    rw [forwardFields, List.mapM_cons, ih, forwardField]
    cases forwardNode catalogue hints (fieldPath path field) item <;> rfl

theorem reverseItems_eq_mapM (path? : Option String) (items : List Value) :
    reverseItems catalogue path? items = items.mapM (reverseNode catalogue path?) := by
  induction items with
  | nil => rw [reverseItems, List.mapM_nil]; rfl
  | cons item items ih => rw [reverseItems, List.mapM_cons, ih]

def reverseField (path : String) (entry : String × Value) :
    Except TransformError (String × Value) :=
  (reverseNode catalogue (some (fieldPath path entry.1)) entry.2).map (entry.1, ·)

theorem reverseFields_eq_mapM (path : String) (fields : List (String × Value)) :
    reverseFields catalogue path fields = fields.mapM (reverseField catalogue path) := by
  induction fields with
  | nil => rw [reverseFields, List.mapM_nil]; rfl
  | cons entry fields ih =>
    obtain ⟨field, item⟩ := entry
    rw [reverseFields, List.mapM_cons, ih, reverseField]
    cases reverseNode catalogue (some (fieldPath path field)) item <;> rfl

/-- What is no list is itself a root. -/
theorem forward_of_not_list {catalogue : Catalogue} {own : CollectionSchema} {v : Value}
    (noList : ∀ items, v ≠ .list items) : forward catalogue own v = forwardRoot catalogue own v := by
  cases v with
  | list items => exact absurd rfl (noList items)
  | _ => rfl

/-- Whether an error can be the fault of whoever sent an entity. -/
def IsExternal (error : TransformError) : Prop := ∀ path, error ≠ .untyped path

theorem isExternal_of_convert {owner? : Option CollectionSchema} {way : Way} {r : Resource}
    {error : TransformError} (failed : convert owner? way r = .error error) :
    IsExternal error := by
  unfold convert at failed
  split at failed
  · cases failed
  · split at failed
    · cases failed
    · split at failed
      · cases failed
      · cases failed
        exact fun path => TransformError.noConfusion

variable {catalogue hints}

theorem forwardNode_of_isScalar {path : String} {v : Value} (simple : v.isScalar = true) :
    forwardNode catalogue hints path v = .ok v := by
  cases v with
  | list | mapping | resource => cases simple
  | _ => rfl

theorem reverseNode_of_isScalar {path? : Option String} {v : Value} (simple : v.isScalar = true) :
    reverseNode catalogue path? v = .ok v := by
  cases v with
  | list | mapping | resource => cases simple
  | _ => rfl

theorem isExternal_of_forwardNode {path : String} {v : Value} {error : TransformError}
    (failed : forwardNode catalogue hints path v = .error error) : IsExternal error := by
  have record {path typeName : String} {fields : List (String × Value)}
      (inner : ∀ entry ∈ fields, ∀ {path}, forwardNode catalogue hints path entry.2 = .error error →
        IsExternal error)
      (failed : (forwardFields catalogue hints path fields >>= fun inner =>
        internalize catalogue ⟨typeName, inner⟩) = .error error) : IsExternal error := by
    rcases Result.bind_eq_error.1 failed with below | ⟨fields, -, here⟩
    · rw [forwardFields_eq_mapM] at below
      obtain ⟨entry, mem, found⟩ := Result.exists_of_mapM_eq_error below
      exact inner entry mem (Result.map_eq_error.1 found)
    · exact isExternal_of_convert here
  induction v using Value.induct generalizing path with
  | scalar v simple =>
    rw [forwardNode_of_isScalar simple] at failed
    cases failed
  | list items ih =>
    rw [forwardNode, Result.map_eq_error, forwardItems_eq_mapM] at failed
    obtain ⟨item, mem, found⟩ := Result.exists_of_mapM_eq_error failed
    exact ih item mem found
  | mapping fields ih =>
    rw [forwardNode] at failed
    split at failed
    · cases failed
      exact fun path => TransformError.noConfusion
    · exact record (fun entry mem => ih entry mem) failed
  | resource typeName fields ih =>
    rw [forwardNode] at failed
    exact record (fun entry mem => ih entry mem) failed

theorem isExternal_of_forwardFields {path : String} {fields : List (String × Value)}
    {error : TransformError} (failed : forwardFields catalogue hints path fields = .error error) :
    IsExternal error := by
  rw [forwardFields_eq_mapM] at failed
  obtain ⟨entry, -, found⟩ := Result.exists_of_mapM_eq_error failed
  exact isExternal_of_forwardNode (Result.map_eq_error.1 found)

theorem isExternal_of_forwardRoot {own : CollectionSchema} {v : Value} {error : TransformError}
    (failed : forwardRoot catalogue own v = .error error) : IsExternal error := by
  unfold forwardRoot at failed
  split at failed
  · rcases Result.bind_eq_error.1 failed with below | ⟨inner, -, here⟩
    · exact isExternal_of_forwardFields below
    · exact isExternal_of_convert here
  · rcases Result.bind_eq_error.1 failed with below | ⟨inner, -, here⟩
    · exact isExternal_of_forwardFields below
    · exact isExternal_of_convert here
  · cases failed

/-- An entity that has no internal shape is at fault itself. -/
theorem isExternal_of_forward {own : CollectionSchema} {v : Value} {error : TransformError}
    (failed : forward catalogue own v = .error error) : IsExternal error := by
  unfold forward at failed
  split at failed
  · rw [Result.map_eq_error] at failed
    obtain ⟨item, -, found⟩ := Result.exists_of_mapM_eq_error failed
    exact isExternal_of_forwardRoot found
  · exact isExternal_of_forwardRoot failed

end RestService.Transform
