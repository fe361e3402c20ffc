import RestService.Collection.Catalogue

/- Entities between their external shape, which clients see, and their internal one, which actions
see. The rules of the collection that a record belongs to by its type are applied to it, after those
for the records inside it.

From outside, a mapping without a type gets one by its place: at the root and in a list at the root
it is what the collection contains, at any other place what a hint for its path tells. From inside,
every record has to have a type. -/

set_option autoImplicit false

namespace RestService

/-- Why an entity has no other shape. -/
inductive TransformError
  | validation (error : ValidationError)
  | missingTypeHint (path : String)
  | untyped (path : String)
  deriving DecidableEq, Repr

def TransformError.message : TransformError → String
  | validation error => error.message
  | missingTypeHint path => s!"no type hint for resource at {path}"
  | untyped path => s!"resource at {path} does not specify !type"

namespace Transform

def fieldPath (path field : String) : String := path ++ "/" ++ field

def rootPath (typeName : String) : String := fieldPath "" typeName

/-- A record under the rules of the collection it belongs to, if it belongs to one. -/
def convert (owner? : Option CollectionSchema) (way : Way) (r : Resource) :
    Except TransformError Value :=
  match owner? with
  | none => .ok r.toValue
  | some c =>
    if c.rules.isEmpty then .ok r.toValue
    else match c.rules.apply way {} r with
      | .ok converted => .ok converted.toValue
      | .error error => .error (.validation error)

def internalize (catalogue : Catalogue) (r : Resource) : Except TransformError Value :=
  convert (catalogue.byExternalType? r.typeName) .forward r

def externalize (catalogue : Catalogue) (r : Resource) : Except TransformError Value :=
  convert (catalogue.byInternalType? r.typeName) .backward r

mutual

/-- The internal shape of the node at a path below the root. -/
def forwardNode (catalogue : Catalogue) (hints : Hints) (path : String) :
    Value → Except TransformError Value
  | .list items => (forwardItems catalogue hints path items).map .list
  | .mapping fields =>
    match hints.typeAt? path with
    | none => .error (.missingTypeHint path)
    | some typeName => do
      let inner ← forwardFields catalogue hints path fields
      internalize catalogue ⟨typeName, inner⟩
  | .resource typeName fields => do
    let inner ← forwardFields catalogue hints path fields
    internalize catalogue ⟨typeName, inner⟩
  | scalar => .ok scalar

def forwardItems (catalogue : Catalogue) (hints : Hints) (path : String) :
    List Value → Except TransformError (List Value)
  | [] => .ok []
  | item :: items => do
    let v ← forwardNode catalogue hints path item
    let vs ← forwardItems catalogue hints path items
    return v :: vs

def forwardFields (catalogue : Catalogue) (hints : Hints) (path : String) :
    List (String × Value) → Except TransformError (List (String × Value))
  | [] => .ok []
  | (field, item) :: fields => do
    let v ← forwardNode catalogue hints (fieldPath path field) item
    let vs ← forwardFields catalogue hints path fields
    return (field, v) :: vs

end

/-- The internal shape of a root. -/
def forwardRoot (catalogue : Catalogue) (own : CollectionSchema) :
    Value → Except TransformError Value
  | .mapping fields => do
    let inner ← forwardFields catalogue own.hints (rootPath own.contains) fields
    internalize catalogue ⟨own.contains, inner⟩
  | .resource typeName fields => do
    let inner ← forwardFields catalogue own.hints (rootPath typeName) fields
    internalize catalogue ⟨typeName, inner⟩
  | other => .ok other

/-- The internal shape of an entity of the collection `own`. Each item of a list counts as a root.
-/
def forward (catalogue : Catalogue) (own : CollectionSchema) :
    Value → Except TransformError Value
  | .list items => (items.mapM (forwardRoot catalogue own)).map .list
  | other => forwardRoot catalogue own other

mutual

/-- The external shape of the node at a path; a root has no path yet. -/
def reverseNode (catalogue : Catalogue) (path? : Option String) :
    Value → Except TransformError Value
  | .list items => (reverseItems catalogue path? items).map .list
  | .mapping _ => .error (.untyped (path?.getD "/"))
  | .resource typeName fields => do
    let inner ← reverseFields catalogue (path?.getD (rootPath typeName)) fields
    externalize catalogue ⟨typeName, inner⟩
  | scalar => .ok scalar

def reverseItems (catalogue : Catalogue) (path? : Option String) :
    List Value → Except TransformError (List Value)
  | [] => .ok []
  | item :: items => do
    let v ← reverseNode catalogue path? item
    let vs ← reverseItems catalogue path? items
    return v :: vs

def reverseFields (catalogue : Catalogue) (path : String) :
    List (String × Value) → Except TransformError (List (String × Value))
  | [] => .ok []
  | (field, item) :: fields => do
    let v ← reverseNode catalogue (some (fieldPath path field)) item
    let vs ← reverseFields catalogue path fields
    return (field, v) :: vs

end

def reverse (catalogue : Catalogue) (v : Value) : Except TransformError Value :=
  reverseNode catalogue none v

end Transform

end RestService
