import RestService.Proofs.Collection.Catalogue
import RestService.Proofs.Collection.Shape
import RestService.Proofs.Rule.Invertible

set_option autoImplicit false

namespace RestService.Transform

/-- The collection whose rules convert records of a type. -/
def owner? (catalogue : Catalogue) (way : Way) (typeName : String) : Option CollectionSchema :=
  match way with
  | .forward => catalogue.byExternalType? typeName
  | .backward => catalogue.byInternalType? typeName

theorem mem_of_owner? {catalogue : Catalogue} {way : Way} {typeName : String} {c : CollectionSchema}
    (owned : owner? catalogue way typeName = some c) : c ∈ catalogue := by
  cases way with
  | forward => exact (Catalogue.mem_of_byExternalType? owned).1
  | backward => exact (Catalogue.mem_of_byInternalType? owned).1

mutual

/-- A value with all its records converted, those inside a record before the record. -/
def shape (catalogue : Catalogue) (way : Way) : Value → Except TransformError Value
  | .list items => (shapeItems catalogue way items).map .list
  | .resource typeName fields => do
    let inner ← shapeFields catalogue way fields
    convert (owner? catalogue way typeName) way ⟨typeName, inner⟩
  | other => .ok other

def shapeItems (catalogue : Catalogue) (way : Way) :
    List Value → Except TransformError (List Value)
  | [] => .ok []
  | item :: items => do
    let v ← shape catalogue way item
    let vs ← shapeItems catalogue way items
    return v :: vs

def shapeFields (catalogue : Catalogue) (way : Way) :
    List (String × Value) → Except TransformError (List (String × Value))
  | [] => .ok []
  | (field, item) :: fields => do
    let v ← shape catalogue way item
    let vs ← shapeFields catalogue way fields
    return (field, v) :: vs

end

variable {catalogue : Catalogue} {way : Way}

theorem shape_of_isScalar {v : Value} (simple : v.isScalar = true) :
    shape catalogue way v = .ok v := by
  cases v with
  | list | mapping | resource => cases simple
  | _ => rfl

/-- One value is the shape of another. -/
def Shapes (catalogue : Catalogue) (way : Way) (v w : Value) : Prop :=
  shape catalogue way v = .ok w

theorem shapeItems_eq_ok {items shaped : List Value} :
    shapeItems catalogue way items = .ok shaped
      ↔ List.Forall₂ (Shapes catalogue way) items shaped := by
  have steps : shapeItems catalogue way items = items.mapM (shape catalogue way) := by
    induction items with
    | nil => rfl
    | cons item items ih => rw [shapeItems, List.mapM_cons, ih]
  rw [steps, Result.mapM_eq_ok]
  exact Iff.rfl

theorem shapeFields_eq_ok {fields shaped : List (String × Value)} :
    shapeFields catalogue way fields = .ok shaped
      ↔ Dict.Alike (Shapes catalogue way) fields shaped := by
  unfold Dict.Alike
  induction fields generalizing shaped with
  | nil =>
    rw [List.forall₂_nil_left_iff]
    exact ⟨fun same => (Except.ok.inj same).symm, fun same => by rw [same]; rfl⟩
  | cons entry fields ih =>
    obtain ⟨field, item⟩ := entry
    rw [shapeFields, List.forall₂_cons_left_iff]
    constructor
    · intro found
      obtain ⟨v, here, more⟩ := Result.bind_eq_ok.1 found
      obtain ⟨vs, later, whole⟩ := Result.bind_eq_ok.1 more
      exact ⟨(field, v), vs, ⟨rfl, here⟩, ih.1 later, (Except.ok.inj whole).symm⟩
    · rintro ⟨⟨other, v⟩, vs, ⟨same, here⟩, later, rfl⟩
      simp only at same here
      subst same
      rw [show shape catalogue way item = .ok v from here, ih.2 later]
      rfl

theorem shapes_list {items : List Value} {w : Value} :
    Shapes catalogue way (.list items) w
      ↔ ∃ shaped, List.Forall₂ (Shapes catalogue way) items shaped ∧ w = .list shaped := by
  rw [Shapes, shape, Result.map_eq_ok]
  constructor
  · rintro ⟨shaped, found, same⟩
    exact ⟨shaped, shapeItems_eq_ok.1 found, same.symm⟩
  · rintro ⟨shaped, each, same⟩
    exact ⟨shaped, shapeItems_eq_ok.2 each, same.symm⟩

theorem shapes_resource {typeName : String} {fields : Fields} {w : Value} :
    Shapes catalogue way (.resource typeName fields) w
      ↔ ∃ inner, Dict.Alike (Shapes catalogue way) fields inner
        ∧ convert (owner? catalogue way typeName) way ⟨typeName, inner⟩ = .ok w := by
  rw [Shapes, shape, Result.bind_eq_ok]
  constructor
  · rintro ⟨inner, found, converted⟩
    exact ⟨inner, shapeFields_eq_ok.1 found, converted⟩
  · rintro ⟨inner, each, converted⟩
    exact ⟨inner, shapeFields_eq_ok.2 each, converted⟩

/-- What a record may be converted to. -/
theorem convert_eq_ok {owner? : Option CollectionSchema} {r : Resource} {w : Value} :
    convert owner? way r = .ok w
      ↔ ((∀ c, owner? = some c → c.rules = []) ∧ w = r.toValue)
        ∨ ∃ c made, owner? = some c ∧ c.rules ≠ [] ∧ c.rules.apply way {} r = .ok made
          ∧ w = made.toValue := by
  unfold convert
  cases owner? with
  | none =>
    constructor
    · exact fun same => .inl ⟨fun c absent => (nomatch absent), (Except.ok.inj same).symm⟩
    · rintro (⟨-, rfl⟩ | ⟨c, made, absent, -⟩)
      · rfl
      · cases absent
  | some c =>
    by_cases empty : c.rules = []
    · simp only [empty, List.isEmpty_nil, if_true]
      constructor
      · intro same
        refine .inl ⟨fun d is => ?_, (Except.ok.inj same).symm⟩
        rw [← Option.some.inj is, empty]
      · rintro (⟨-, rfl⟩ | ⟨d, made, is, full, -⟩)
        · rfl
        · rw [← Option.some.inj is] at full
          exact absurd empty full
    · have full : c.rules.isEmpty = false := by simpa using empty
      simp only [full, Bool.false_eq_true, if_false]
      constructor
      · intro found
        split at found
        · rename_i made applied
          exact .inr ⟨c, made, rfl, empty, applied, (Except.ok.inj found).symm⟩
        · cases found
      · rintro (⟨none, -⟩ | ⟨d, made, is, -, applied, rfl⟩)
        · exact absurd (none c rfl) empty
        · cases is
          rw [applied]

/-- Shapes of what is no list or record are no list or record. -/
theorem Shapes.isScalar_eq {v w : Value} (shapes : Shapes catalogue way v w)
    (typed : ∀ fields, v ≠ .mapping fields) : w.isScalar = v.isScalar := by
  cases v with
  | list items =>
    obtain ⟨shaped, -, rfl⟩ := shapes_list.1 shapes
    rfl
  | resource typeName fields =>
    obtain ⟨inner, -, converted⟩ := shapes_resource.1 shapes
    rcases convert_eq_ok.1 converted with ⟨-, rfl⟩ | ⟨c, made, -, -, -, rfl⟩ <;> rfl
  | mapping fields => exact absurd rfl (typed fields)
  | _ =>
    cases shapes
    rfl

/-- A rule is applied to a record while a value is shaped; the fields of the record have got their
shape before. -/
inductive Applied (catalogue : Catalogue) (way : Way) : Value → Resource → Rule → Prop
  | here {typeName : String} {fields inner : Fields} {c : CollectionSchema} {rule : Rule}
      (shaped : shapeFields catalogue way fields = .ok inner)
      (owned : owner? catalogue way typeName = some c) (mem : rule ∈ c.rules) :
      Applied catalogue way (.resource typeName fields) ⟨typeName, inner⟩ rule
  | field {typeName : String} {fields : Fields} {entry : String × Value} {r : Resource}
      {rule : Rule} (mem : entry ∈ fields) (inside : Applied catalogue way entry.2 r rule) :
      Applied catalogue way (.resource typeName fields) r rule
  | item {items : List Value} {item : Value} {r : Resource} {rule : Rule} (mem : item ∈ items)
      (inside : Applied catalogue way item r rule) :
      Applied catalogue way (.list items) r rule

/-- What is applied to a record is a rule of the collection that the record belongs to. -/
theorem Applied.owned {v : Value} {r : Resource} {rule : Rule}
    (applied : Applied catalogue way v r rule) :
    ∃ c, owner? catalogue way r.typeName = some c ∧ rule ∈ c.rules := by
  induction applied with
  | here _ owned mem => exact ⟨_, owned, mem⟩
  | field _ _ ih => exact ih
  | item _ _ ih => exact ih

/-- The collection that converts records of a type is found again by the type that it gives them,
and where there is none, none is found either. -/
def Consistent (catalogue : Catalogue) (way : Way) (typeName : String) : Prop :=
  match owner? catalogue way typeName with
  | some c => owner? catalogue way.back (c.rules.typeAfter way typeName) = some c
  | none => owner? catalogue way.back typeName = none

/-- What a record needs to get its shape back: fields in order, none of them in place of the type,
and a type that tells the collection on both sides. -/
structure Recoverable (catalogue : Catalogue) (way : Way) (typeName : String) (fields : Fields) :
    Prop where
  sorted : Dict.Sorted fields
  untyped : typeKey ∉ Dict.keys fields
  consistent : Consistent catalogue way typeName

/-- A value that a rule has carried over goes back to where it came from, its own shape included.
Either it is a scalar, which has but one shape, or the rule has left it alone both times. -/
theorem exists_taken_back {source target : RuleSide} {u v w : Value}
    (typed : ∀ fields, u ≠ .mapping fields) (forth : Shapes catalogue way u v)
    (back : Shapes catalogue way.back v u) (converted : source.convert v = .ok w)
    (undone : target.convert w = .ok v) :
    ∃ x, Shapes catalogue way.back w x ∧ target.convert x = .ok u := by
  cases simple : v.isScalar with
  | true =>
    have plain : u.isScalar = true := (forth.isScalar_eq typed).symm.trans simple
    have same : u = v := Except.ok.inj ((shape_of_isScalar plain).symm.trans forth)
    have last := RuleSide.isScalar_of_convert simple converted
    exact ⟨w, shape_of_isScalar last, same ▸ undone⟩
  | false =>
    have kept : source.conversions = [] := RuleSide.conversions_eq_nil simple converted
    have same : v = w := RuleSide.eq_of_plain kept converted
    subst same
    have keeps : target.conversions = [] := RuleSide.conversions_eq_nil simple undone
    exact ⟨u, back, RuleSide.convert_of_plain keeps u⟩

/-- A value and a shape of it that lead to each other. -/
def Returns (catalogue : Catalogue) (way : Way) (v w : Value) : Prop :=
  (∀ fields, v ≠ .mapping fields) ∧ Shapes catalogue way v w ∧ Shapes catalogue way.back w v

section Carried

variable {rules : Ruleset} {rule : Rule} {typeName : String} {fields inner : Fields}

/-- What a rule has written to a field other than the type name goes back. -/
theorem exists_carried_back (each : Dict.Alike (Returns catalogue way) fields inner)
    (undone : Ruleset.Undone way ⟨typeName, inner⟩ rule)
    (source : (rule.source way).field ≠ typeKey) {v w : Value}
    (found : Dict.get? inner (rule.source way).field = some v)
    (converted : (rule.source way).convert v = .ok w) :
    ∃ x u, Shapes catalogue way.back w x ∧ (rule.target way).convert x = .ok u
      ∧ Dict.get? fields (rule.source way).field = some u := by
  rcases each.get? (rule.source way).field with ⟨-, absent⟩ | ⟨u, v', original, same, returns⟩
  · rw [absent] at found
    cases found
  · obtain rfl : v' = v := Option.some.inj (same.symm.trans found)
    have back := undone _ _ ((Ruleset.valueAt_of_ne source _).trans found) converted
    obtain ⟨x, shaped, taken⟩ :=
      exists_taken_back returns.1 returns.2.1 returns.2.2 converted back
    exact ⟨x, u, shaped, taken, original⟩

/-- A field that a rule fills holds what the rule makes of the field it reads. -/
theorem get?_target (invertible : rules.Invertible) {made : Resource}
    (applied : rules.apply way {} ⟨typeName, inner⟩ = .ok made) (mem : rule ∈ rules)
    (source : (rule.source way).field ≠ typeKey) :
    Dict.get? made.fields (rule.target way).field
      = (Dict.get? inner (rule.source way).field).bind fun v =>
          ((rule.source way).convert v).toOption := by
  have apart := invertible.apart way
  have makes := Ruleset.makes_of_apply (invertible.goes way) apart applied
  have target : (rule.target way).field ≠ typeKey := fun same =>
    source ((invertible.typed_iff way mem).2 same)
  rw [makes.fields, if_neg target, Ruleset.output_of_mem apart mem, Ruleset.carried,
    Ruleset.valueAt_of_ne source]

/-- Every field of a converted record has a shape that goes back. -/
theorem exists_shape_of_mem (invertible : rules.Invertible)
    (each : Dict.Alike (Returns catalogue way) fields inner) {made : Resource}
    (applied : rules.apply way {} ⟨typeName, inner⟩ = .ok made)
    (undone : ∀ rule ∈ rules, Ruleset.Undone way ⟨typeName, inner⟩ rule) :
    ∀ entry ∈ made.fields, ∃ x, Shapes catalogue way.back entry.2 x := by
  have makes := Ruleset.makes_of_apply (invertible.goes way) (invertible.apart way) applied
  intro entry mem
  have found := makes.fields entry.1
  rw [Dict.get?_of_mem makes.sorted mem] at found
  split at found
  · cases found
  · rename_i key
    obtain ⟨rule, inside, target, gave⟩ := Ruleset.exists_of_output found.symm
    have source : (rule.source way).field ≠ typeKey := fun same =>
      key (target ▸ (invertible.typed_iff way inside).1 same)
    obtain ⟨v, read, converted⟩ := Ruleset.exists_of_carried gave
    rw [Ruleset.valueAt_of_ne source] at read
    obtain ⟨x, -, back, -⟩ := exists_carried_back each (undone rule inside) source read converted
    exact ⟨x, back⟩

end Carried

/-- A record that rules have converted goes back, if its fields do. -/
theorem apply_returns {rules : Ruleset} (invertible : rules.Invertible) {typeName : String}
    {fields inner : Fields} (each : Dict.Alike (Returns catalogue way) fields inner)
    (sorted : Dict.Sorted fields) (untyped : typeKey ∉ Dict.keys fields) {made : Resource}
    (applied : rules.apply way {} ⟨typeName, inner⟩ = .ok made)
    (undone : ∀ rule ∈ rules, Ruleset.Undone way ⟨typeName, inner⟩ rule) :
    ∃ back, Dict.Alike (Shapes catalogue way.back) made.fields back
      ∧ rules.apply way.back {} ⟨made.typeName, back⟩ = .ok ⟨typeName, fields⟩ := by
  have typed : ∀ rule ∈ rules, (rule.source way).field = typeKey →
      Ruleset.Undone way ⟨typeName, inner⟩ rule := fun rule mem _ => undone rule mem
  obtain ⟨back, alike⟩ := Dict.exists_alike (exists_shape_of_mem invertible each applied undone)
  refine ⟨back, alike, invertible.apply_back applied typed (fun rule mem source => ?_)
    alike.keys_eq.symm each.keys_eq sorted untyped⟩
  have written := get?_target invertible applied mem source
  refine ⟨fun absent => ?_, fun v w found converted => ?_⟩
  · rw [absent] at written
    rcases each.get? (rule.source way).field with ⟨original, -⟩ | ⟨u, v, -, same, -⟩
    · rcases alike.get? (rule.target way).field with ⟨-, none⟩ | ⟨w, x, some, -⟩
      · exact ⟨none, original⟩
      · rw [written] at some
        cases some
    · rw [absent] at same
      cases same
  · obtain ⟨x, u, shapes, taken, original⟩ :=
      exists_carried_back each (undone rule mem) source found converted
    rw [found, Option.bind_some, converted] at written
    rcases alike.get? (rule.target way).field with ⟨none, -⟩ | ⟨w', x', some, there, shapes'⟩
    · rw [none] at written
      cases written
    · rw [some] at written
      cases written
      obtain rfl : x' = x := Except.ok.inj (shapes'.symm.trans shapes)
      exact ⟨x', u, there, taken, original⟩

/-- A record goes back to what it has been made of, if its fields do. -/
theorem convert_returns (invertible : ∀ c ∈ catalogue, c.rules.Invertible) {typeName : String}
    {fields inner : Fields} (recoverable : Recoverable catalogue way typeName fields)
    (each : Dict.Alike (Returns catalogue way) fields inner) {w : Value}
    (converted : convert (owner? catalogue way typeName) way ⟨typeName, inner⟩ = .ok w)
    (undone : ∀ c, owner? catalogue way typeName = some c →
      ∀ rule ∈ c.rules, Ruleset.Undone way ⟨typeName, inner⟩ rule) :
    Shapes catalogue way.back w (.resource typeName fields) := by
  have consistent := recoverable.consistent
  unfold Consistent at consistent
  rcases convert_eq_ok.1 converted with ⟨plain, rfl⟩ | ⟨c, made, owned, full, applied, rfl⟩
  · refine shapes_resource.2 ⟨fields, (each.imp fun _ _ _ both => both.2.2).flip, ?_⟩
    refine convert_eq_ok.2 (.inl ⟨fun c owned => ?_, rfl⟩)
    split at consistent
    · rename_i own found
      rw [plain own found] at consistent
      rw [← Option.some.inj (consistent.symm.trans owned)]
      exact plain own found
    · rw [consistent] at owned
      cases owned
  · rw [owned] at consistent
    simp only at consistent
    have inv := invertible c (mem_of_owner? owned)
    obtain ⟨back, alike, again⟩ := apply_returns inv each recoverable.sorted recoverable.untyped
      applied (undone c owned)
    refine shapes_resource.2 ⟨back, alike, convert_eq_ok.2 (.inr ⟨c, _, ?_, full, again, rfl⟩)⟩
    rw [← (inv.typeFromType way).typeAfter_of_apply full applied]
    exact consistent

/-- The walk the other way leads from a shape back to the value, if every rule that has been applied
is undone. -/
theorem shapes_back (invertible : ∀ c ∈ catalogue, c.rules.Invertible) {v w : Value}
    (records : v.Records (Recoverable catalogue way)) (shapes : Shapes catalogue way v w)
    (undone : ∀ r rule, Applied catalogue way v r rule → Ruleset.Undone way r rule) :
    Shapes catalogue way.back w v := by
  -- Both walks go to the leaves first, so a record is met with its fields already back.
  induction v using Value.induct generalizing w with
  | scalar v simple =>
    obtain rfl : v = w := Except.ok.inj ((shape_of_isScalar simple).symm.trans shapes)
    exact shape_of_isScalar simple
  | list items ih =>
    obtain ⟨shaped, each, rfl⟩ := shapes_list.1 shapes
    refine shapes_list.2 ⟨items, ?_, rfl⟩
    have inner := records.of_list
    have applied : ∀ item ∈ items, ∀ r rule, Applied catalogue way item r rule →
        Ruleset.Undone way r rule := fun item mem r rule inside => undone r rule (.item mem inside)
    clear records shapes undone
    induction each with
    | nil => exact .nil
    | @cons item w items shaped here _ later =>
      refine .cons ?_ (later (fun item mem => ih item (List.mem_cons_of_mem _ mem))
        (fun item mem => inner item (List.mem_cons_of_mem _ mem))
        fun item mem => applied item (List.mem_cons_of_mem _ mem))
      exact ih item List.mem_cons_self (inner item List.mem_cons_self) here
        (applied item List.mem_cons_self)
  | mapping fields _ => exact absurd records Value.Records.not_mapping
  | resource typeName fields ih =>
    obtain ⟨recoverable, inner⟩ := records.of_resource
    obtain ⟨shaped, each, converted⟩ := shapes_resource.1 shapes
    have returns : Dict.Alike (Returns catalogue way) fields shaped := by
      refine each.imp fun entry mem w here => ⟨fun fields same => ?_, here, ?_⟩
      · have typed := inner entry mem
        rw [same] at typed
        exact typed.not_mapping
      · exact ih entry mem (inner entry mem) here fun r rule inside =>
          undone r rule (.field mem inside)
    refine convert_returns invertible recoverable returns converted fun c owned rule mem => ?_
    exact undone _ _ (.here (shapeFields_eq_ok.2 each) owned mem)

end RestService.Transform
