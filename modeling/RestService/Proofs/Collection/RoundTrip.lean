import RestService.Proofs.Collection.Inverse
import RestService.Proofs.Collection.Typed

set_option autoImplicit false

namespace RestService.Transform

variable {catalogue : Catalogue} {way : Way} {P : String → Fields → Prop}

theorem forwardItems_eq_shapeItems {hints : Hints} {path : String} {items : List Value}
    (each : ∀ item ∈ items, forwardNode catalogue hints path item = shape catalogue .forward item) :
    forwardItems catalogue hints path items = shapeItems catalogue .forward items := by
  induction items with
  | nil => rfl
  | cons item items ih =>
    rw [forwardItems, shapeItems, each item List.mem_cons_self,
      ih fun item mem => each item (List.mem_cons_of_mem _ mem)]

theorem forwardFields_eq_shapeFields {hints : Hints} {path : String} {fields : Fields}
    (each : ∀ entry ∈ fields, ∀ path,
      forwardNode catalogue hints path entry.2 = shape catalogue .forward entry.2) :
    forwardFields catalogue hints path fields = shapeFields catalogue .forward fields := by
  induction fields with
  | nil => rfl
  | cons entry fields ih =>
    obtain ⟨field, item⟩ := entry
    have here := each (field, item) List.mem_cons_self (fieldPath path field)
    rw [forwardFields, shapeFields, here,
      ih fun entry mem => each entry (List.mem_cons_of_mem _ mem)]

/-- Where all records have a type, hints do not matter. -/
theorem forwardNode_eq_shape {v : Value} (records : v.Records P) (hints : Hints) (path : String) :
    forwardNode catalogue hints path v = shape catalogue .forward v := by
  induction v using Value.induct generalizing path with
  | scalar v simple => rw [forwardNode_of_isScalar simple, shape_of_isScalar simple]
  | list items ih =>
    rw [forwardNode, shape,
      forwardItems_eq_shapeItems fun item mem => ih item mem (records.of_list item mem) path]
  | mapping fields _ => exact absurd records Value.Records.not_mapping
  | resource typeName fields ih =>
    rw [forwardNode, shape, forwardFields_eq_shapeFields fun entry mem path =>
      ih entry mem (records.of_resource.2 entry mem) path]
    rfl

theorem reverseItems_eq_shapeItems {path? : Option String} {items : List Value}
    (each : ∀ item ∈ items, reverseNode catalogue path? item = shape catalogue .backward item) :
    reverseItems catalogue path? items = shapeItems catalogue .backward items := by
  induction items with
  | nil => rfl
  | cons item items ih =>
    rw [reverseItems, shapeItems, each item List.mem_cons_self,
      ih fun item mem => each item (List.mem_cons_of_mem _ mem)]

theorem reverseFields_eq_shapeFields {path : String} {fields : Fields}
    (each : ∀ entry ∈ fields, ∀ path?,
      reverseNode catalogue path? entry.2 = shape catalogue .backward entry.2) :
    reverseFields catalogue path fields = shapeFields catalogue .backward fields := by
  induction fields with
  | nil => rfl
  | cons entry fields ih =>
    obtain ⟨field, item⟩ := entry
    have here := each (field, item) List.mem_cons_self (some (fieldPath path field))
    rw [reverseFields, shapeFields, here,
      ih fun entry mem => each entry (List.mem_cons_of_mem _ mem)]

theorem reverseNode_eq_shape {v : Value} (records : v.Records P) (path? : Option String) :
    reverseNode catalogue path? v = shape catalogue .backward v := by
  induction v using Value.induct generalizing path? with
  | scalar v simple => rw [reverseNode_of_isScalar simple, shape_of_isScalar simple]
  | list items ih =>
    rw [reverseNode, shape,
      reverseItems_eq_shapeItems fun item mem => ih item mem (records.of_list item mem) path?]
  | mapping fields _ => exact absurd records Value.Records.not_mapping
  | resource typeName fields ih =>
    rw [reverseNode, shape, reverseFields_eq_shapeFields fun entry mem path? =>
      ih entry mem (records.of_resource.2 entry mem) path?]
    rfl

theorem reverse_eq_shape {v : Value} (records : v.Records P) :
    reverse catalogue v = shape catalogue .backward v := reverseNode_eq_shape records none

theorem forwardRoot_eq_shape {own : CollectionSchema} {v : Value} (records : v.Records P)
    (noList : ∀ items, v ≠ .list items) :
    forwardRoot catalogue own v = shape catalogue .forward v := by
  cases v with
  | list items => exact absurd rfl (noList items)
  | mapping fields => exact absurd records Value.Records.not_mapping
  | resource typeName fields =>
    rw [forwardRoot, shape, forwardFields_eq_shapeFields fun entry mem path =>
      forwardNode_eq_shape (records.of_resource.2 entry mem) own.hints path]
    rfl
  | _ => rfl

theorem forward_eq_shape {own : CollectionSchema} {v : Value} (records : v.Records P)
    (flat : v.Flat) : forward catalogue own v = shape catalogue .forward v := by
  cases v with
  | list items =>
    have each : ∀ item ∈ items,
        forwardRoot catalogue own item = shape catalogue .forward item := fun item mem =>
      forwardRoot_eq_shape (records.of_list item mem) (flat items rfl item mem)
    have all : items.mapM (forwardRoot catalogue own) = shapeItems catalogue .forward items := by
      clear records flat
      induction items with
      | nil => rfl
      | cons item items ih =>
        rw [List.mapM_cons, shapeItems, each item List.mem_cons_self,
          ih fun item mem => each item (List.mem_cons_of_mem _ mem)]
    rw [forward, shape, all]
  | mapping fields => exact absurd records Value.Records.not_mapping
  | resource typeName fields =>
    exact (forwardRoot_eq_shape records fun items => Value.noConfusion :
      forwardRoot catalogue own (.resource typeName fields) = _)
  | _ => rfl

theorem Shapes.typed {v w : Value} (records : v.Records P) (shapes : Shapes catalogue way v w) :
    w.Typed := by
  induction v using Value.induct generalizing w with
  | scalar v simple =>
    obtain rfl : v = w := Except.ok.inj ((shape_of_isScalar simple).symm.trans shapes)
    exact .scalar simple
  | list items ih =>
    obtain ⟨shaped, each, rfl⟩ := shapes_list.1 shapes
    refine .list fun item mem => ?_
    obtain ⟨origin, inside, here⟩ := Result.exists_of_mem_right each mem
    exact ih origin inside (records.of_list origin inside) here
  | mapping fields _ => exact absurd records Value.Records.not_mapping
  | resource typeName fields ih =>
    obtain ⟨inner, each, converted⟩ := shapes_resource.1 shapes
    have typed : ∀ entry ∈ inner, entry.2.Typed := by
      intro entry mem
      obtain ⟨origin, inside, -, here⟩ := Result.exists_of_mem_right each mem
      exact ih origin inside (records.of_resource.2 origin inside) here
    exact typed_of_convert converted typed

/-- What is no list has no list as its shape. -/
theorem Shapes.ne_list {v w : Value} (records : v.Records P) (shapes : Shapes catalogue way v w)
    (noList : ∀ items, v ≠ .list items) : ∀ items, w ≠ .list items := by
  rintro shaped rfl
  cases v with
  | list items => exact noList items rfl
  | mapping fields => exact records.not_mapping
  | resource typeName fields =>
    obtain ⟨inner, -, converted⟩ := shapes_resource.1 shapes
    rcases convert_eq_ok.1 converted with ⟨-, same⟩ | ⟨c, made, -, -, -, same⟩ <;> cases same
  | _ => cases shapes

theorem Shapes.flat {v w : Value} (records : v.Records P) (flat : v.Flat)
    (shapes : Shapes catalogue way v w) : w.Flat := by
  rintro shaped rfl item mem
  cases v with
  | list items =>
    obtain ⟨others, each, same⟩ := shapes_list.1 shapes
    cases same
    obtain ⟨origin, inside, here⟩ := Result.exists_of_mem_right each mem
    exact here.ne_list (records.of_list origin inside) (flat items rfl origin inside)
  | _ => exact absurd rfl (shapes.ne_list records (fun items => Value.noConfusion) shaped)

/-- A type that clients may use: that of a collection, or one that has no meaning inside. -/
def External (catalogue : Catalogue) (typeName : String) : Prop :=
  (∃ c ∈ catalogue, c.contains = typeName) ∨ ∀ c ∈ catalogue, c.internalType ≠ typeName

/-- A type that actions may use: that of a collection whose rules lead back from it, or one that has
no meaning on either side. -/
def Internal (catalogue : Catalogue) (typeName : String) : Prop :=
  (∃ c ∈ catalogue, c.internalType = typeName
    ∧ c.rules.typeAfter .backward typeName = c.contains)
  ∨ ∀ c ∈ catalogue, c.contains ≠ typeName ∧ c.internalType ≠ typeName

theorem External.consistent {typeName : String} (external : External catalogue typeName) :
    Consistent catalogue .forward typeName := by
  have leads {c : CollectionSchema} (mem : c ∈ catalogue) (named : c.contains = typeName) :
      catalogue.byInternalType? (c.rules.typeAfter .forward typeName) = some c := by
    rw [← named, Ruleset.typeAfter_forward]
    exact Catalogue.byInternalType?_internalType mem
  unfold Consistent owner?
  simp only
  cases found : catalogue.byExternalType? typeName with
  | some c =>
    obtain ⟨mem, named⟩ := Catalogue.mem_of_byExternalType? found
    exact leads mem named
  | none =>
    rcases external with ⟨c, mem, rfl⟩ | unknown
    · rw [Catalogue.byExternalType?_contains mem] at found
      cases found
    · exact Catalogue.byInternalType?_eq_none unknown

theorem Internal.consistent {typeName : String} (internal : Internal catalogue typeName) :
    Consistent catalogue .backward typeName := by
  unfold Consistent owner?
  simp only
  rcases internal with ⟨c, mem, rfl, leads⟩ | unknown
  · rw [Catalogue.byInternalType?_internalType mem]
    simp only [Way.back, leads]
    exact Catalogue.byExternalType?_contains mem
  · rw [Catalogue.byInternalType?_eq_none fun c mem => (unknown c mem).2]
    exact Catalogue.byExternalType?_eq_none fun c mem => (unknown c mem).1

/-- A record with its fields in order, none of them in place of the type, and a type of which `P`
holds. -/
structure Proper (P : String → Prop) (typeName : String) (fields : Fields) : Prop where
  sorted : Dict.Sorted fields
  untyped : typeKey ∉ Dict.keys fields
  type : P typeName

/-- Entities come back from their internal shape, and from their external one, whenever every rule
that has been applied to them is undone by its other side. -/
theorem round_trips (invertible : ∀ c ∈ catalogue, c.rules.Invertible) (own : CollectionSchema)
    (v w : Value) (flat : v.Flat) :
    (v.Records (Proper (External catalogue)) → forward catalogue own v = .ok w →
      (∀ r rule, Applied catalogue .forward v r rule → Ruleset.Undone .forward r rule) →
      reverse catalogue w = .ok v)
    ∧ (v.Records (Proper (Internal catalogue)) → reverse catalogue v = .ok w →
      (∀ r rule, Applied catalogue .backward v r rule → Ruleset.Undone .backward r rule) →
      forward catalogue own w = .ok v) := by
  constructor
  · intro records there undone
    rw [forward_eq_shape records flat] at there
    rw [reverse_eq_shape (Shapes.typed records there)]
    refine shapes_back invertible (records.mono fun typeName fields proper => ?_) there undone
    exact ⟨proper.sorted, proper.untyped, proper.type.consistent⟩
  · intro records there undone
    rw [reverse_eq_shape records] at there
    rw [forward_eq_shape (Shapes.typed records there)
      (Shapes.flat records flat there)]
    refine shapes_back invertible (records.mono fun typeName fields proper => ?_) there undone
    exact ⟨proper.sorted, proper.untyped, proper.type.consistent⟩

/-- In a record of scalars, only the rules for its own type are applied. -/
theorem Applied.of_scalars {typeName : String} {fields : Fields} {r : Resource} {rule : Rule}
    (simple : ∀ entry ∈ fields, entry.2.isScalar = true)
    (applied : Applied catalogue way (.resource typeName fields) r rule) :
    r = ⟨typeName, fields⟩ ∧ ∃ c, owner? catalogue way typeName = some c ∧ rule ∈ c.rules := by
  cases applied with
  | @here _ _ inner c _ shaped owned mem =>
    refine ⟨?_, c, owned, mem⟩
    have same : shapeFields catalogue way fields = .ok fields := by
      refine shapeFields_eq_ok.2 ?_
      clear shaped owned
      induction fields with
      | nil => exact .nil
      | cons entry fields ih =>
        refine .cons ⟨rfl, shape_of_isScalar (simple entry List.mem_cons_self)⟩ ?_
        exact ih fun entry mem => simple entry (List.mem_cons_of_mem _ mem)
    rw [Except.ok.inj (shaped.symm.trans same)]
  | @field _ _ entry _ _ mem inside =>
    have scalar := simple entry mem
    generalize entry.2 = v at inside scalar
    cases inside <;> cases scalar

/-- A collection with its own type for clients, and a field that they see by another name. -/
def renamedBooks : CollectionSchema where
  spec :=
    { name := "books"
      contains := "book"
      entityTransform := "title(!type) <=> lower(!type)\ntitle <=> Title" }
  rules :=
    [⟨⟨typeKey, [.title]⟩, .both, ⟨typeKey, [.lower]⟩, false⟩,
      ⟨⟨"title", []⟩, .both, ⟨"Title", []⟩, false⟩]
  hints := []

theorem round_trips_books :
    Catalogue.ofSpecs [renamedBooks.spec] = .ok (.sole renamedBooks)
      ∧ forward (.sole renamedBooks) renamedBooks (.resource "book" [("title", .text "Dune")])
        = .ok (.resource "Book" [("Title", .text "Dune")])
      ∧ reverse (.sole renamedBooks) (.resource "Book" [("Title", .text "Dune")])
        = .ok (.resource "book" [("title", .text "Dune")]) := by
  have built : Catalogue.ofSpecs [renamedBooks.spec] = .ok (.sole renamedBooks) := by decide +kernel
  have invertible : ∀ c ∈ Catalogue.sole renamedBooks, c.rules.Invertible :=
    Catalogue.forall_mem_sole ⟨by decide, by decide, by decide, by decide⟩
  have flat (typeName : String) (fields : Fields) : (Value.resource typeName fields).Flat :=
    fun items same => nomatch same
  have undone (way : Way) (typeName field : String) (fields : Fields)
    (same : fields = [(field, .text "Dune")])
    (each : ∀ rule ∈ renamedBooks.rules, Ruleset.Undone way ⟨typeName, fields⟩ rule) (r : Resource)
    (rule : Rule) (applied : Applied (.sole renamedBooks) way (.resource typeName fields) r rule) :
      Ruleset.Undone way r rule := by
    obtain ⟨rfl, c, owned, mem⟩ :=
      applied.of_scalars (same ▸ List.forall_mem_singleton.2 rfl)
    rw [Catalogue.mem_sole.1 (mem_of_owner? owned)] at mem
    exact each rule mem
  refine ⟨built, ?_, ?_⟩
  · refine (round_trips invertible renamedBooks _ _ (flat _ _)).2 ?_ rfl ?_
    · refine .resource ⟨?_, by decide, .inl ⟨renamedBooks, List.mem_cons_self, rfl, rfl⟩⟩ ?_
      · exact List.pairwise_singleton _ _
      · exact List.forall_mem_singleton.2 (.scalar rfl)
    · refine undone .backward _ _ _ rfl ?_
      rw [renamedBooks, List.forall_mem_cons, List.forall_mem_singleton]
      constructor <;> intro v w found converted <;> cases found <;>
        rw [← Except.ok.inj converted] <;> rfl
  · refine (round_trips invertible renamedBooks _ _ (flat _ _)).1 ?_ rfl ?_
    · refine .resource ⟨?_, by decide, .inl ⟨renamedBooks, List.mem_cons_self, rfl⟩⟩ ?_
      · exact List.pairwise_singleton _ _
      · exact List.forall_mem_singleton.2 (.scalar rfl)
    · refine undone .forward _ _ _ rfl ?_
      rw [renamedBooks, List.forall_mem_cons, List.forall_mem_singleton]
      constructor <;> intro v w found converted <;> cases found <;>
        rw [← Except.ok.inj converted] <;> rfl

/-- A collection whose rules leave the type of its records for clients alone, but not on the way
back. -/
def lowerBooks : CollectionSchema where
  spec :=
    { name := "books"
      contains := "book"
      entityTransform := "lower(!type) <=> title(!type)" }
  rules := [⟨⟨typeKey, [.lower]⟩, .both, ⟨typeKey, [.title]⟩, false⟩]
  hints := []

/-- It is not enough that a record is what a collection holds and that all rules are undone: if the
rules lead from its type to one that is of no collection, it does not come back. -/
theorem exists_forward_reverse_ne :
    Catalogue.ofSpecs [lowerBooks.spec] = .ok (.sole lowerBooks) ∧ lowerBooks.rules.Invertible
      ∧ ∃ v w, v.Records (Proper (· = lowerBooks.internalType)) ∧ v.Flat
        ∧ (∀ r rule, Applied (.sole lowerBooks) .backward v r rule → Ruleset.Undone .backward r rule)
        ∧ reverse (.sole lowerBooks) v = .ok w ∧ forward (.sole lowerBooks) lowerBooks w ≠ .ok v := by
  refine ⟨by decide +kernel, ⟨by decide, by decide, by decide, by decide⟩, .resource "book" [],
    .resource "Book" [], ?_, fun items same => (nomatch same), ?_, rfl, ?_⟩
  · exact .resource ⟨.nil, List.not_mem_nil, rfl⟩ (List.forall_mem_nil _)
  · intro r rule applied
    obtain ⟨rfl, c, owned, mem⟩ := applied.of_scalars (List.forall_mem_nil _)
    rw [Catalogue.mem_sole.1 (mem_of_owner? owned)] at mem
    obtain rfl := List.mem_singleton.1 mem
    intro v w found converted
    cases found
    rw [← Except.ok.inj converted]
    rfl
  · intro same
    have name := (Value.resource.inj (Except.ok.inj same)).1
    exact absurd name (by decide)

end RestService.Transform
