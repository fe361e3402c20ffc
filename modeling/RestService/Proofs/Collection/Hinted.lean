import RestService.Proofs.Collection.Shape

set_option autoImplicit false

namespace RestService.Transform

/-- The type that a mapping gets by its place; a root has no path yet. -/
def typeOfPlace? (own : CollectionSchema) : Option String → Option String
  | none => some own.contains
  | some path => own.hints.typeAt? path

/-- The path of a record of some type at a place. -/
def pathOfRecord (path? : Option String) (typeName : String) : String :=
  path?.getD (rootPath typeName)

mutual

/-- All records of the first value have a type, and the second is the same value but for records,
any number of them, whose type is left out because it is what their place tells. -/
inductive Hinted (own : CollectionSchema) : Option String → Value → Value → Prop
  | scalar {path? : Option String} {v : Value} (simple : v.isScalar = true) : Hinted own path? v v
  | list {path? : Option String} {items others : List Value}
      (each : HintedItems own path? items others) : Hinted own path? (.list items) (.list others)
  | resource {path? : Option String} {typeName : String} {fields others : Fields}
      (inner : HintedFields own (pathOfRecord path? typeName) fields others) :
      Hinted own path? (.resource typeName fields) (.resource typeName others)
  | mapping {path? : Option String} {typeName : String} {fields others : Fields}
      (told : typeOfPlace? own path? = some typeName)
      (inner : HintedFields own (pathOfRecord path? typeName) fields others) :
      Hinted own path? (.resource typeName fields) (.mapping others)

/-- The items of lists, one by one. They share the place of the list. -/
inductive HintedItems (own : CollectionSchema) : Option String → List Value → List Value → Prop
  | nil {path? : Option String} : HintedItems own path? [] []
  | cons {path? : Option String} {item other : Value} {items others : List Value}
      (here : Hinted own path? item other) (later : HintedItems own path? items others) :
      HintedItems own path? (item :: items) (other :: others)

/-- The fields of records at a path, one by one. -/
inductive HintedFields (own : CollectionSchema) : String → Fields → Fields → Prop
  | nil {path : String} : HintedFields own path [] []
  | cons {path field : String} {item other : Value} {fields others : Fields}
      (here : Hinted own (some (fieldPath path field)) item other)
      (later : HintedFields own path fields others) :
      HintedFields own path ((field, item) :: fields) ((field, other) :: others)

end

/-- Somewhere in a value, below its roots, stands a mapping that no hint gives a type. -/
inductive Unhinted (own : CollectionSchema) : Option String → Value → Prop
  | here {path? : Option String} {fields : Fields} (untold : typeOfPlace? own path? = none) :
      Unhinted own path? (.mapping fields)
  | item {path? : Option String} {items : List Value} {item : Value} (mem : item ∈ items)
      (inside : Unhinted own path? item) : Unhinted own path? (.list items)
  | ofResource {path? : Option String} {typeName field : String} {fields : Fields} {item : Value}
      (mem : (field, item) ∈ fields)
      (inside : Unhinted own (some (fieldPath (pathOfRecord path? typeName) field)) item) :
      Unhinted own path? (.resource typeName fields)
  | ofMapping {path? : Option String} {typeName field : String} {fields : Fields} {item : Value}
      (told : typeOfPlace? own path? = some typeName) (mem : (field, item) ∈ fields)
      (inside : Unhinted own (some (fieldPath (pathOfRecord path? typeName) field)) item) :
      Unhinted own path? (.mapping fields)

variable {catalogue : Catalogue} {own : CollectionSchema}

theorem forwardItems_hinted {path : String} {items others : List Value}
    (each : ∀ item ∈ items, ∀ other, Hinted own (some path) item other →
      forwardNode catalogue own.hints path other = forwardNode catalogue own.hints path item)
    (hinted : HintedItems own (some path) items others) :
    forwardItems catalogue own.hints path others
      = forwardItems catalogue own.hints path items := by
  induction items generalizing others with
  | nil =>
    cases hinted
    rfl
  | cons item items ih =>
    cases hinted with
    | cons here later =>
      rw [forwardItems, forwardItems, each item List.mem_cons_self _ here,
        ih (fun item mem => each item (List.mem_cons_of_mem _ mem)) later]

theorem forwardFields_hinted {path : String} {fields others : Fields}
    (each : ∀ entry ∈ fields, ∀ path other, Hinted own (some path) entry.2 other →
      forwardNode catalogue own.hints path other = forwardNode catalogue own.hints path entry.2)
    (hinted : HintedFields own path fields others) :
    forwardFields catalogue own.hints path others
      = forwardFields catalogue own.hints path fields := by
  induction fields generalizing others with
  | nil =>
    cases hinted
    rfl
  | cons entry fields ih =>
    cases hinted with
    | cons here later =>
      rw [forwardFields, forwardFields, each _ List.mem_cons_self _ _ here,
        ih (fun entry mem => each entry (List.mem_cons_of_mem _ mem)) later]

/-- Below the root, a type that a hint tells may be left out. -/
theorem forwardNode_hinted {path : String} {v other : Value}
    (hinted : Hinted own (some path) v other) :
    forwardNode catalogue own.hints path other = forwardNode catalogue own.hints path v := by
  induction v using Value.induct generalizing path other with
  | scalar v simple =>
    cases hinted with
    | list | resource | mapping => cases simple
    | scalar => rfl
  | list items ih =>
    cases hinted with
    | scalar simple => cases simple
    | list each =>
      rw [forwardNode, forwardNode,
        forwardItems_hinted (fun item mem other => ih item mem) each]
  | mapping fields _ =>
    cases hinted with
    | scalar simple => cases simple
  | resource typeName fields ih =>
    have below {others : Fields} (inner : HintedFields own path fields others) :
        forwardFields catalogue own.hints path others
          = forwardFields catalogue own.hints path fields :=
      forwardFields_hinted (fun entry mem path other => ih entry mem) inner
    cases hinted with
    | scalar simple => cases simple
    | resource inner => rw [forwardNode, forwardNode, below inner]
    | mapping told inner =>
      have told : own.hints.typeAt? path = some typeName := told
      rw [forwardNode, told, forwardNode]
      simp only [below inner]

/-- At the root, the type that the collection contains may be left out as well. -/
theorem forwardRoot_hinted {v other : Value} (hinted : Hinted own none v other)
    (noList : ∀ items, v ≠ .list items) :
    forwardRoot catalogue own other = forwardRoot catalogue own v := by
  have below {path : String} {fields others : Fields} (inner : HintedFields own path fields others) :
      forwardFields catalogue own.hints path others
        = forwardFields catalogue own.hints path fields :=
    forwardFields_hinted (fun _ _ _ _ => forwardNode_hinted) inner
  cases hinted with
  | scalar simple => rfl
  | list each => exact absurd rfl (noList _)
  | @resource _ typeName fields others inner =>
    have same := below (show HintedFields own (rootPath typeName) fields others from inner)
    rw [forwardRoot, forwardRoot, same]
  | @mapping _ typeName fields others told inner =>
    have contained : own.contains = typeName := Option.some.inj told
    have same := below (show HintedFields own (rootPath typeName) fields others from inner)
    rw [forwardRoot, forwardRoot, contained, same]

theorem mapM_forwardRoot_hinted {items others : List Value}
    (hinted : HintedItems own none items others)
    (flat : ∀ item ∈ items, ∀ inner, item ≠ .list inner) :
    others.mapM (forwardRoot catalogue own) = items.mapM (forwardRoot catalogue own) := by
  induction items generalizing others with
  | nil =>
    cases hinted
    rfl
  | cons item items ih =>
    cases hinted with
    | cons here later =>
      rw [List.mapM_cons, List.mapM_cons, forwardRoot_hinted here (flat item List.mem_cons_self),
        ih later fun item mem => flat item (List.mem_cons_of_mem _ mem)]

theorem exists_of_forwardItems {path : String} {items shaped : List Value}
    (whole : forwardItems catalogue own.hints path items = .ok shaped) {item : Value}
    (mem : item ∈ items) : ∃ w, forwardNode catalogue own.hints path item = .ok w := by
  rw [forwardItems_eq_mapM, Result.mapM_eq_ok] at whole
  obtain ⟨w, -, found⟩ := Result.exists_of_mem_left whole mem
  exact ⟨w, found⟩

theorem exists_of_forwardFields {path field : String} {fields shaped : Fields}
    (whole : forwardFields catalogue own.hints path fields = .ok shaped) {item : Value}
    (mem : (field, item) ∈ fields) :
    ∃ w, forwardNode catalogue own.hints (fieldPath path field) item = .ok w := by
  rw [forwardFields_eq_mapM, Result.mapM_eq_ok] at whole
  obtain ⟨entry, -, found⟩ := Result.exists_of_mem_left whole mem
  obtain ⟨w, there, -⟩ := Result.map_eq_ok.1 found
  exact ⟨w, there⟩

/-- Below the root, a mapping without a type has no internal shape, nor has anything around it. -/
theorem forwardNode_unhinted {path : String} {v : Value} (unhinted : Unhinted own (some path) v)
    (w : Value) : forwardNode catalogue own.hints path v ≠ .ok w := by
  generalize place : some path = path? at unhinted
  induction unhinted generalizing path w with
  | here untold =>
    subst place
    have untold : own.hints.typeAt? path = none := untold
    intro shaped
    rw [forwardNode, untold] at shaped
    cases shaped
  | item mem inside ih =>
    intro shaped
    rw [forwardNode] at shaped
    obtain ⟨items, whole, -⟩ := Result.map_eq_ok.1 shaped
    obtain ⟨v, found⟩ := exists_of_forwardItems whole mem
    exact ih v place found
  | ofResource mem inside ih =>
    subst place
    intro shaped
    rw [forwardNode] at shaped
    obtain ⟨fields, whole, -⟩ := Result.bind_eq_ok.1 shaped
    obtain ⟨v, found⟩ := exists_of_forwardFields whole mem
    exact ih v rfl found
  | ofMapping told mem inside ih =>
    subst place
    have told : own.hints.typeAt? path = _ := told
    intro shaped
    rw [forwardNode, told] at shaped
    obtain ⟨fields, whole, -⟩ := Result.bind_eq_ok.1 shaped
    obtain ⟨v, found⟩ := exists_of_forwardFields whole mem
    exact ih v rfl found

theorem forwardRoot_unhinted {v : Value} (unhinted : Unhinted own none v)
    (noList : ∀ items, v ≠ .list items) (w : Value) : forwardRoot catalogue own v ≠ .ok w := by
  intro shaped
  cases unhinted with
  | here untold => cases untold
  | item mem inside => exact noList _ rfl
  | @ofResource _ typeName _ _ _ mem inside =>
    obtain ⟨fields, whole, -⟩ := Result.bind_eq_ok.1 shaped
    obtain ⟨v, found⟩ := exists_of_forwardFields whole mem
    exact forwardNode_unhinted inside v found
  | @ofMapping _ typeName _ _ _ told mem inside =>
    have contained : own.contains = typeName := Option.some.inj told
    rw [forwardRoot, contained] at shaped
    obtain ⟨fields, whole, -⟩ := Result.bind_eq_ok.1 shaped
    obtain ⟨v, found⟩ := exists_of_forwardFields whole mem
    exact forwardNode_unhinted inside v found

/-- A type that is left out where its place tells it makes no difference to the internal shape of an
entity, nor to the error if there is none; and no entity has an internal shape if the type of a
mapping in it is told by nothing. -/
theorem forward_hinted (catalogue : Catalogue) (own : CollectionSchema) :
    (∀ v other : Value, v.Flat → Hinted own none v other →
      forward catalogue own other = forward catalogue own v)
    ∧ ∀ v : Value, v.Flat → Unhinted own none v →
      ∃ error, forward catalogue own v = .error error := by
  constructor
  · intro v other flat hinted
    cases hinted with
    | list each =>
      rw [forward, forward, mapM_forwardRoot_hinted each (flat _ rfl)]
    | scalar simple => rfl
    | resource inner =>
      exact forwardRoot_hinted (.resource inner) fun items => Value.noConfusion
    | mapping told inner =>
      exact forwardRoot_hinted (.mapping told inner) fun items => Value.noConfusion
  · intro v flat unhinted
    cases result : forward catalogue own v with
    | error error => exact ⟨error, rfl⟩
    | ok w =>
      exfalso
      by_cases listed : ∃ items, v = .list items
      · obtain ⟨items, rfl⟩ := listed
        obtain ⟨shaped, whole, -⟩ := Result.map_eq_ok.1 result
        cases unhinted with
        | item mem inside =>
          obtain ⟨u, -, found⟩ := Result.exists_of_mem_left (Result.mapM_eq_ok.1 whole) mem
          exact forwardRoot_unhinted inside (flat items rfl _ mem) u found
      · have noList : ∀ items, v ≠ .list items := fun items same => listed ⟨items, same⟩
        rw [forward_of_not_list noList] at result
        exact forwardRoot_unhinted unhinted noList w result

/-- A collection that tells the type of reviews. -/
def reviewedBooks : CollectionSchema where
  spec := { name := "books", contains := "book", parseHints := "review: type=review" }
  rules := []
  hints := [⟨"review", { typeName? := some "review" }⟩]

/-- The reviews themselves, with a rule of their own. -/
def reviews : CollectionSchema where
  spec := { name := "reviews", contains := "review", entityTransform := "comment <=> Comment" }
  rules := [⟨⟨"comment", []⟩, .both, ⟨"Comment", []⟩, false⟩]
  hints := []

def reviewed : Catalogue := (Catalogue.sole reviewedBooks).push reviews (by decide +kernel)

theorem forward_hinted_books :
    Catalogue.ofSpecs [reviewedBooks.spec, reviews.spec] = .ok reviewed
      ∧ forward reviewed reviewedBooks
          (.mapping [("review", .mapping [("comment", .text "Dull")])])
        = .ok (.resource "book" [("review", .resource "review" [("Comment", .text "Dull")])])
      ∧ ∃ error, forward reviewed reviewedBooks
          (.mapping [("author", .mapping [])]) = .error error := by
  have flat (fields : Fields) : (Value.mapping fields).Flat := fun items same => nomatch same
  have full : forward reviewed reviewedBooks
      (.resource "book" [("review", .resource "review" [("comment", .text "Dull")])])
      = .ok (.resource "book" [("review", .resource "review" [("Comment", .text "Dull")])]) := rfl
  have scalar : HintedFields reviewedBooks "/book/review" [("comment", .text "Dull")]
      [("comment", .text "Dull")] := .cons (.scalar rfl) .nil
  have review : HintedFields reviewedBooks "/book"
      [("review", .resource "review" [("comment", .text "Dull")])]
      [("review", .mapping [("comment", .text "Dull")])] := .cons (.mapping rfl scalar) .nil
  refine ⟨by decide +kernel, ?_, ?_⟩
  · rw [← full]
    exact (forward_hinted _ _).1 _ _ (fun items same => nomatch same) (.mapping rfl review)
  · refine (forward_hinted _ _).2 _ (flat _) (.ofMapping rfl List.mem_cons_self ?_)
    exact .here rfl

end RestService.Transform
