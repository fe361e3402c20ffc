import RestService.Proofs.Collection.Hinted
import RestService.Proofs.Collection.Inverse
import RestService.Proofs.Json.Sound
import RestService.Proofs.Yaml.Record
import RestService.Representation.Codec

set_option autoImplicit false

namespace RestService

namespace Ruleset

/-- The rules keep what `P` says of the type of a record and of the names of its fields. -/
def Keeps (P : Option String → List String → Prop) (way : Way) (rules : Ruleset) : Prop :=
  ∀ r made, P (some r.typeName) (Dict.keys r.fields) → rules.apply way {} r = .ok made →
    P (some made.typeName) (Dict.keys made.fields)

theorem keeps_unreserved (way : Way) (rules : Ruleset) :
    rules.Keeps (fun _ names => typeKey ∉ names) way := by
  intro r made _ applied
  obtain ⟨draft, free, rfl⟩ :=
    apply_invariant (fun _ _ _ _ _ stepped => stepped.not_mem_keys) List.not_mem_nil applied
  exact free

end Ruleset

namespace Transform

variable {P : Option String → List String → Prop} {catalogue : Catalogue}
  {own : CollectionSchema}

/-- Fields whose values are replaced one by one keep their names. -/
theorem keys_of_mapM {f : String × Value → Except TransformError Value} {fields inner : Fields}
    (each : fields.mapM (fun entry => (f entry).map (entry.1, ·)) = .ok inner) :
    Dict.keys inner = Dict.keys fields
      ∧ ∀ entry ∈ inner, ∃ origin ∈ fields, f origin = .ok entry.2 := by
  have each := Result.mapM_eq_ok.1 each
  constructor
  · have alike : Dict.Alike (fun _ _ => True) fields inner := each.imp fun origin entry found => by
      obtain ⟨v, -, same⟩ := Result.map_eq_ok.1 found
      rw [← same]
      exact ⟨rfl, trivial⟩
    exact alike.keys_eq.symm
  · intro entry mem
    obtain ⟨origin, inside, found⟩ := Result.exists_of_mem_right each mem
    obtain ⟨v, here, same⟩ := Result.map_eq_ok.1 found
    exact ⟨origin, inside, same ▸ here⟩

theorem labelled_of_items {f : Value → Except TransformError Value} {items inner : List Value}
    (each : ∀ item ∈ items, ∀ w, f item = .ok w → w.Labelled P)
    (made : items.mapM f = .ok inner) : (Value.list inner).Labelled P := by
  refine .list trivial fun w mem => ?_
  obtain ⟨item, inside, found⟩ := Result.exists_of_mem_right (Result.mapM_eq_ok.1 made) mem
  exact each item inside w found

theorem labelled_of_convert {way : Way} {typeName : String} {fields : Fields} {w : Value}
    (keeps : ∀ c ∈ catalogue, c.rules.Keeps P way) (here : P (some typeName) (Dict.keys fields))
    (inner : ∀ entry ∈ fields, entry.2.Labelled P)
    (converted : convert (owner? catalogue way typeName) way ⟨typeName, fields⟩ = .ok w) :
    w.Labelled P := by
  unfold convert at converted
  split at converted
  · cases converted
    exact .resource here inner
  · rename_i c owned
    split at converted
    · cases converted
      exact .resource here inner
    · split at converted
      · rename_i made applied
        cases converted
        refine .resource (keeps c (mem_of_owner? owned) _ made here applied) ?_
        exact Ruleset.holds_of_apply (fun v => Value.labelled_of_isScalar P) inner applied
      · cases converted

/-- A record converted after its fields: what it says of itself holds if each field has kept it. -/
theorem labelled_of_record {way : Way} {typeName : String}
    {f : String × Value → Except TransformError Value} {fields : Fields} {w : Value}
    (keeps : ∀ c ∈ catalogue, c.rules.Keeps P way) (here : P (some typeName) (Dict.keys fields))
    (inner : ∀ entry ∈ fields, ∀ w, f entry = .ok w → w.Labelled P)
    (shaped : (fields.mapM (fun entry => (f entry).map (entry.1, ·)) >>= fun inner =>
      convert (owner? catalogue way typeName) way ⟨typeName, inner⟩) = .ok w) :
    w.Labelled P := by
  obtain ⟨made, each, converted⟩ := Result.bind_eq_ok.1 shaped
  obtain ⟨names, origin⟩ := keys_of_mapM each
  refine labelled_of_convert keeps ?_ (fun entry mem => ?_) converted
  · rw [names]
    exact here
  · obtain ⟨source, inside, found⟩ := origin entry mem
    exact inner source inside entry.2 found

section Forward

variable (keeps : ∀ c ∈ catalogue, c.rules.Keeps P .forward)
  (given : ∀ path? typeName names, typeOfPlace? own path? = some typeName → P none names →
    P (some typeName) names)
include keeps given

/-- Below the root, a record keeps what is said of its type and its field names, its type being one
that a hint gives it if it has none. -/
theorem labelled_of_forwardNode {v w : Value} {path : String} (labelled : v.Labelled P)
    (shaped : forwardNode catalogue own.hints path v = .ok w) : w.Labelled P := by
  induction v using Value.induct generalizing path w with
  | scalar v simple =>
    rw [forwardNode_of_isScalar simple] at shaped
    cases shaped
    exact labelled
  | list items ih =>
    obtain ⟨-, each⟩ := Value.everywhere_list.1 labelled
    rw [forwardNode, forwardItems_eq_mapM] at shaped
    obtain ⟨inner, made, rfl⟩ := Result.map_eq_ok.1 shaped
    exact labelled_of_items (fun item mem _ => ih item mem (each item mem)) made
  | mapping fields ih =>
    obtain ⟨here, each⟩ := Value.everywhere_mapping.1 labelled
    rw [forwardNode, forwardFields_eq_mapM] at shaped
    split at shaped
    · cases shaped
    · rename_i typeName told
      have typed := given (some path) typeName _ told here
      exact labelled_of_record keeps typed (fun entry mem _ => ih entry mem (each entry mem)) shaped
  | resource typeName fields ih =>
    obtain ⟨here, each⟩ := Value.everywhere_resource.1 labelled
    rw [forwardNode, forwardFields_eq_mapM] at shaped
    exact labelled_of_record keeps here (fun entry mem _ => ih entry mem (each entry mem)) shaped

theorem labelled_of_forwardRoot {v w : Value} (labelled : v.Labelled P)
    (shaped : forwardRoot catalogue own v = .ok w) : w.Labelled P := by
  have node {fields : Fields} (each : ∀ entry ∈ fields, entry.2.Labelled P) (path : String) :
      ∀ entry ∈ fields, ∀ w,
        forwardNode catalogue own.hints (fieldPath path entry.1) entry.2 = .ok w → w.Labelled P :=
    fun entry mem _ => labelled_of_forwardNode keeps given (each entry mem)
  cases v with
  | mapping fields =>
    obtain ⟨here, each⟩ := Value.everywhere_mapping.1 labelled
    rw [forwardRoot, forwardFields_eq_mapM] at shaped
    exact labelled_of_record keeps (given none _ _ rfl here) (node each _) shaped
  | resource typeName fields =>
    obtain ⟨here, each⟩ := Value.everywhere_resource.1 labelled
    rw [forwardRoot, forwardFields_eq_mapM] at shaped
    exact labelled_of_record keeps here (node each _) shaped
  | _ =>
    cases shaped
    exact labelled

/-- What is said of types and field names holds of the internal shape of an entity as well. -/
theorem labelled_of_forward {v w : Value} (labelled : v.Labelled P)
    (shaped : forward catalogue own v = .ok w) : w.Labelled P := by
  cases v with
  | list items =>
    obtain ⟨-, each⟩ := Value.everywhere_list.1 labelled
    obtain ⟨shapes, made, rfl⟩ := Result.map_eq_ok.1 shaped
    exact labelled_of_items
      (fun item mem _ => labelled_of_forwardRoot keeps given (each item mem)) made
  | _ => exact labelled_of_forwardRoot keeps given labelled shaped

end Forward

theorem labelled_of_reverseNode (keeps : ∀ c ∈ catalogue, c.rules.Keeps P .backward)
    {v w : Value} {path? : Option String} (labelled : v.Labelled P)
    (shaped : reverseNode catalogue path? v = .ok w) : w.Labelled P := by
  induction v using Value.induct generalizing path? w with
  | scalar v simple =>
    rw [reverseNode_of_isScalar simple] at shaped
    cases shaped
    exact labelled
  | list items ih =>
    obtain ⟨-, each⟩ := Value.everywhere_list.1 labelled
    rw [reverseNode, reverseItems_eq_mapM] at shaped
    obtain ⟨inner, made, rfl⟩ := Result.map_eq_ok.1 shaped
    exact labelled_of_items (fun item mem _ => ih item mem (each item mem)) made
  | mapping fields ih => cases shaped
  | resource typeName fields ih =>
    obtain ⟨here, each⟩ := Value.everywhere_resource.1 labelled
    rw [reverseNode, reverseFields_eq_mapM] at shaped
    exact labelled_of_record keeps here (fun entry mem _ => ih entry mem (each entry mem)) shaped

/-- And of its external shape. -/
theorem labelled_of_reverse (keeps : ∀ c ∈ catalogue, c.rules.Keeps P .backward) {v w : Value}
    (labelled : v.Labelled P) (shaped : reverse catalogue v = .ok w) : w.Labelled P :=
  labelled_of_reverseNode keeps labelled shaped

/-- The name under which a type is sent is never that of a field. No body in JSON or YAML says so,
and no transformation makes it so, whatever the rules read and write. -/
theorem unreserved :
    (∀ (codec : Codec) (cx : CodecContext) (charset? : Option String) (body : ByteArray)
      (v : Value), codec = .json ∨ codec = .yaml → codec.parse cx charset? body = .ok v →
        v.Unreserved)
    ∧ ∀ (catalogue : Catalogue) (own : CollectionSchema) (v w : Value), v.Unreserved →
      forward catalogue own v = .ok w ∨ reverse catalogue v = .ok w → w.Unreserved := by
  constructor
  · rintro codec cx charset? body v (rfl | rfl) parsed
    · exact Value.unreserved_of_orderly (JsonTree.regular_of_parseBody parsed).orderly
    · exact Value.unreserved_of_orderly (YamlTree.orderly_of_parseBody parsed)
  · rintro catalogue own v w free (shaped | shaped)
    · exact labelled_of_forward (fun c _ => Ruleset.keeps_unreserved .forward c.rules)
        (fun _ _ _ _ here => here) free shaped
    · exact labelled_of_reverse (fun c _ => Ruleset.keeps_unreserved .backward c.rules) free shaped

/-- A collection whose rules make the class of a book its type, and its type a field. -/
def classed : CollectionSchema where
  spec := { name := "books", contains := "book",
            entityTransform := "class <=> !type\n!type <=> kind" }
  rules := [⟨⟨"class", []⟩, .both, ⟨"!type", []⟩, false⟩, ⟨⟨"!type", []⟩, .both, ⟨"kind", []⟩, false⟩]
  hints := []

theorem unreserved_books :
    Catalogue.ofSpecs [classed.spec] = .ok (.sole classed)
      ∧ Codec.json.parse ⟨classed.hints, "books"⟩ none
          "\x7b\"!type\": \"book\", \"class\": \"novel\"\x7d".toUTF8
        = .ok (.resource "book" [("class", .text "novel")])
      ∧ Value.Unreserved (.resource "book" [("class", .text "novel")])
      ∧ forward (.sole classed) classed (.resource "book" [("class", .text "novel")])
        = .ok (.resource "novel" [("kind", .text "book")])
      ∧ Value.Unreserved (.resource "novel" [("kind", .text "book")]) := by
  have built : Catalogue.ofSpecs [classed.spec] = .ok (.sole classed) := by decide +kernel
  have parsed : Codec.json.parse ⟨classed.hints, "books"⟩ none
      "\x7b\"!type\": \"book\", \"class\": \"novel\"\x7d".toUTF8
      = .ok (.resource "book" [("class", .text "novel")]) := by cbv
  have shaped : forward (.sole classed) classed (.resource "book" [("class", .text "novel")])
      = .ok (.resource "novel" [("kind", .text "book")]) := rfl
  have free := unreserved.1 .json _ none _ _ (.inl rfl) parsed
  exact ⟨built, parsed, free, shaped, unreserved.2 _ _ _ _ free (.inl shaped)⟩

end Transform

end RestService
