import RestService.Proofs.Collection.Labels
import RestService.Proofs.Decimal.Digits
import RestService.Proofs.Text.Case

set_option autoImplicit false

namespace RestService

/-- No type of a record is the empty text. -/
def Value.Named (v : Value) : Prop := v.Labelled fun type? _ => type? ≠ some ""

/-- A value has a YAML document exactly if every type in it has a name. -/
theorem YamlTree.exists_ofValue_iff {v : Value} : (∃ tree, ofValue v = .ok tree) ↔ v.Named := by
  induction v using Value.induct with
  | scalar v simple =>
    refine ⟨fun _ => Value.labelled_of_isScalar _ simple, fun _ => ?_⟩
    cases v with
    | list | mapping | resource => cases simple
    | _ => exact ⟨_, rfl⟩
  | list items ih =>
    rw [ofValue, Result.exists_map_eq_ok, exists_ofItems_iff]
    exact (forall₂_congr ih).trans (Value.everywhere_list.trans (and_iff_right trivial)).symm
  | mapping fields ih =>
    rw [ofValue, Result.exists_map_eq_ok, exists_ofFields_iff]
    exact (forall₂_congr ih).trans (Value.everywhere_mapping.trans (and_iff_right nofun)).symm
  | resource typeName fields ih =>
    have record : Value.Named (.resource typeName fields)
        ↔ some typeName ≠ some "" ∧ ∀ entry ∈ fields, entry.2.Named := Value.everywhere_resource
    rw [record, ofValue]
    by_cases empty : typeName = ""
    · rw [if_pos empty]
      constructor
      · rintro ⟨tree, ⟨⟩⟩
      · exact fun named => absurd (congrArg some empty) named.1
    · rw [if_neg empty, Result.exists_map_eq_ok, exists_ofFields_iff]
      have type : some typeName ≠ some "" := fun same => empty (Option.some.inj same)
      exact (forall₂_congr ih).trans (and_iff_right type).symm

namespace Hint

/-- The type that a hint gives, if it gives one, is not the empty text. -/
def Named (hint : Hint) : Prop := hint.typeName? ≠ some ""

theorem Named.add {hint next : Hint} {key : String} {value? : Option String} (named : hint.Named)
    (added : hint.add key value? = .ok next) : next.Named := by
  unfold Hint.add at added
  split at added
  · split at added
    · split at added
      · cases added
      · rename_i name full
        cases added
        exact fun same => full (Option.some.inj same)
    · cases added
  · split at added
    · split at added
      · cases added
        exact named
      · simp only at added
        split at added
        · cases added
          exact named
        · cases added
    · cases added

theorem Named.addDirective {hint next : Hint} {directive : String} (named : hint.Named)
    (added : hint.addDirective directive = .ok next) : next.Named := by
  unfold Hint.addDirective at added
  simp only at added
  split at added
  · cases added
    exact named
  · split at added <;> exact named.add added

theorem named_of_readEntry {line : String} {entry : HintEntry}
    (read : readEntry line = .ok entry) : entry.hint.Named := by
  unfold readEntry at read
  split at read
  · cases read
  · simp only at read
    split at read
    · cases read
    · split at read
      · cases read
      · split at read
        · rename_i hint ran
          cases read
          have begins : Named {} := fun same => nomatch same
          exact Result.foldlM_invariant begins (fun _ _ _ _ added named => named.addDirective added)
            ran
        · cases read

end Hint

/-- No hint gives a mapping the empty text for a type. -/
theorem Hints.typeAt?_ne_empty {source : String} {hints : Hints} (parsed : parse source = .ok hints)
    {path typeName : String} (told : hints.typeAt? path = some typeName) : typeName ≠ "" := by
  obtain ⟨hint, found, typed⟩ := Option.bind_eq_some_iff.1 told
  obtain ⟨entry, first, rfl⟩ := Option.map_eq_some_iff.1 found
  have each := Result.mapM_eq_ok.1 parsed
  obtain ⟨line, -, read⟩ := Result.exists_of_mem_right each (List.mem_of_find?_eq_some first)
  split at read
  · rename_i e here
    cases read
    exact fun empty => Hint.named_of_readEntry here (typed.trans (congrArg some empty))
  · cases read

namespace Conversion

theorem scalarText?_ne_empty {v : Value} (named : v ≠ .text "") {s : String}
    (text : v.scalarText? = some s) : s ≠ "" := by
  cases v with
  | bool b =>
    rw [← Option.some.inj text]
    cases b <;> decide
  | int n => exact Option.some.inj text ▸ Decimal.int64Text_ne_empty n
  | float x => exact Option.some.inj text ▸ Decimal.plain_text_ne_empty x
  | text t => exact fun empty => named (congrArg Value.text ((Option.some.inj text).trans empty))
  | null | list | mapping | resource => cases text

/-- A conversion makes an empty text of an empty text only. -/
theorem ne_empty_of_apply {c : Conversion} {v w : Value} (named : v ≠ .text "")
    (applied : c.apply v = .ok w) : w ≠ .text "" := by
  have mapped {f : String → String} (full : ∀ s, s ≠ "" → f s ≠ "")
      (applied : mapText f v = .ok w) : w ≠ .text "" := by
    obtain ⟨s, rfl, rfl⟩ := exists_of_mapText applied
    exact fun same => full s (fun empty => named (congrArg Value.text empty)) (Value.text.inj same)
  unfold apply at applied
  split at applied
  · cases applied
    exact Value.noConfusion
  · cases c with
    | int =>
      obtain ⟨-, n, rfl⟩ := exists_of_toInt applied
      exact Value.noConfusion
    | float =>
      obtain ⟨-, x, rfl⟩ := exists_of_toFloat applied
      exact Value.noConfusion
    | bool =>
      obtain ⟨-, b, rfl⟩ := exists_of_toBool applied
      exact Value.noConfusion
    | str =>
      obtain ⟨s, text, rfl⟩ := exists_of_toText applied
      exact fun same => scalarText?_ne_empty named text (Value.text.inj same)
    | lower => exact mapped (fun _ => Text.lower_ne_empty) applied
    | upper => exact mapped (fun _ => Text.upper_ne_empty) applied
    | title => exact mapped (fun _ => Text.title_ne_empty) applied

end Conversion

theorem RuleSide.ne_empty_of_convert {side : RuleSide} {v w : Value} (named : v ≠ .text "")
    (converted : side.convert v = .ok w) : w ≠ .text "" := by
  obtain ⟨field, conversions⟩ := side
  induction conversions generalizing v with
  | nil => exact Except.ok.inj converted ▸ named
  | cons c cs ih =>
    obtain ⟨u, first, rest⟩ := convert_cons converted
    exact ih (Conversion.ne_empty_of_apply named first) rest

namespace Ruleset

/-- A type that is made of another one by conversions has a name if that one has. -/
theorem TypeFromType.keeps {way : Way} {rules : Ruleset} (fromType : rules.TypeFromType way) :
    rules.Keeps (fun type? _ => type? ≠ some "") way := by
  intro r made named applied
  have kept (rule : Rule) (mem : rule ∈ rules) (goes : rule.goes way = true) (d next : Draft)
      (stepped : Stepped way {} r rule d next) (here : d.typeName? ≠ some "") :
      next.typeName? ≠ some "" := by
    cases stepped with
    | absent missing allowed => exact here
    | written found converted target => exact here
    | @typed v name found converted target =>
      rw [fromType rule mem goes target, valueAt_typeKey] at found
      have before : v ≠ .text "" := fun empty =>
        named (congrArg some (Value.text.inj ((Option.some.inj found).trans empty)))
      have after := RuleSide.ne_empty_of_convert before converted
      exact fun same => after (congrArg Value.text (Option.some.inj same))
  obtain ⟨draft, typed, rfl⟩ := apply_invariant kept (fun same => nomatch same) applied
  change some (draft.typeName?.getD r.typeName) ≠ some ""
  cases written : draft.typeName? with
  | none => exact named
  | some name => exact written ▸ typed

end Ruleset

namespace Transform

variable {catalogue : Catalogue} {own : CollectionSchema} {v w u : Value}

theorem named_of_reverse {spec : CollectionSpec} (made : CollectionSchema.ofSpec spec = .ok own)
    (contained : own.contains ≠ "") (fromType : ∀ c ∈ catalogue, ∀ way, c.rules.TypeFromType way)
    (named : v.Named) (shaped : forward catalogue own v = .ok w)
    (shown : reverse catalogue w = .ok u) : u.Named := by
  have hinted : Hints.parse spec.parseHints = .ok own.hints := by
    obtain ⟨rules, -, more⟩ := Result.bind_eq_ok.1 made
    obtain ⟨hints, parsed, whole⟩ := Result.bind_eq_ok.1 more
    cases whole
    exact parsed
  have given : ∀ path? typeName (names : List String),
      typeOfPlace? own path? = some typeName → (none : Option String) ≠ some "" →
        some typeName ≠ some "" := by
    intro path? typeName _ told _
    cases path? with
    | none => exact fun empty => contained (Option.some.inj (told.trans empty))
    | some path => exact fun empty => Hints.typeAt?_ne_empty hinted told (Option.some.inj empty)
  have inside : w.Named :=
    labelled_of_forward (fun c mem => (fromType c mem .forward).keeps) given named shaped
  exact labelled_of_reverse (fun c mem => (fromType c mem .backward).keeps) inside shown

/-- A record at the root whose type belongs to no collection keeps its type. -/
theorem exists_reverse_resource {typeName : String} {fields : Fields}
    (unowned : ∀ c ∈ catalogue, c.contains ≠ typeName ∧ c.internalType ≠ typeName)
    (shaped : forward catalogue own (.resource typeName fields) = .ok w)
    (shown : reverse catalogue w = .ok u) : ∃ inner, u = .resource typeName inner := by
  have outside : catalogue.byExternalType? typeName = none :=
    Catalogue.byExternalType?_eq_none fun c mem => (unowned c mem).1
  have inside : catalogue.byInternalType? typeName = none :=
    Catalogue.byInternalType?_eq_none fun c mem => (unowned c mem).2
  obtain ⟨inner, -, there⟩ := Result.bind_eq_ok.1 shaped
  rw [internalize, outside] at there
  cases there
  obtain ⟨inner, -, back⟩ := Result.bind_eq_ok.1 shown
  rw [externalize, inside] at back
  cases back
  exact ⟨inner, rfl⟩

/-- Stored data that is shown can be written in YAML exactly if its types have names. They do if
those of the body did, where what the collection contains has a name and rules take types from types
only; and a body of a type without a name is shown with it. -/
theorem named_shown (catalogue : Catalogue) (own : CollectionSchema) (v w u : Value)
    (shaped : forward catalogue own v = .ok w) (shown : reverse catalogue w = .ok u) :
    ((∃ tree, YamlTree.ofValue u = .ok tree) ↔ u.Named)
    ∧ (∀ spec, CollectionSchema.ofSpec spec = .ok own → own.contains ≠ "" →
      (∀ c ∈ catalogue, ∀ way, c.rules.TypeFromType way) → v.Named → u.Named)
    ∧ ((∀ c ∈ catalogue, c.contains ≠ "" ∧ c.internalType ≠ "") →
      ∀ fields, v = .resource "" fields → ¬u.Named) := by
  refine ⟨YamlTree.exists_ofValue_iff, fun spec made contained fromType named =>
    named_of_reverse made contained fromType named shaped shown, ?_⟩
  rintro unowned fields rfl named
  obtain ⟨inner, rfl⟩ := exists_reverse_resource unowned shaped shown
  exact (Value.everywhere_resource.1 named).1 rfl

/-- A collection whose types are in lower case inside and in title case outside. -/
def titled : CollectionSchema where
  spec := { name := "books", contains := "Book", parseHints := "*: type=Book",
            entityTransform := "lower(!type) <=> title(!type)\nsequel <=> sequel" }
  rules := [⟨⟨"!type", [.lower]⟩, .both, ⟨"!type", [.title]⟩, false⟩,
    ⟨⟨"sequel", []⟩, .both, ⟨"sequel", []⟩, false⟩]
  hints := [⟨"*", { typeName? := some "Book" }⟩]

theorem named_shown_books :
    CollectionSchema.ofSpec titled.spec = .ok titled
      ∧ forward (.sole titled) titled (.mapping [("sequel", .mapping [])])
        = .ok (.resource "book" [("sequel", .resource "book" [])])
      ∧ reverse (.sole titled) (.resource "book" [("sequel", .resource "book" [])])
        = .ok (.resource "Book" [("sequel", .resource "Book" [])])
      ∧ ∃ tree, YamlTree.ofValue (.resource "Book" [("sequel", .resource "Book" [])]) = .ok tree := by
  have made : CollectionSchema.ofSpec titled.spec = .ok titled := by decide +kernel
  have body : Value.Named (.mapping [("sequel", .mapping [])]) :=
    .mapping nofun (List.forall_mem_singleton.2 (.mapping nofun (List.forall_mem_nil _)))
  have shaped : forward (.sole titled) titled (.mapping [("sequel", .mapping [])])
      = .ok (.resource "book" [("sequel", .resource "book" [])]) := rfl
  have shown : reverse (.sole titled) (.resource "book" [("sequel", .resource "book" [])])
      = .ok (.resource "Book" [("sequel", .resource "Book" [])]) := rfl
  have fromType : ∀ c ∈ Catalogue.sole titled, ∀ way, c.rules.TypeFromType way :=
    Catalogue.forall_mem_sole fun way => by cases way <;> decide
  obtain ⟨document, keeps, -⟩ := named_shown (.sole titled) titled _ _ _ shaped shown
  have named := keeps titled.spec made (by decide) fromType body
  exact ⟨made, shaped, shown, document.2 named⟩

def plainBooks : CollectionSchema where
  spec := { name := "books", contains := "book" }
  rules := []
  hints := []

/-- A body may give a record the empty text for a type, and what is shown of it has that type still;
there is no YAML document for it. -/
theorem exists_shown_unnamed :
    Catalogue.ofSpecs [plainBooks.spec] = .ok (.sole plainBooks)
      ∧ ∃ v w u, Codec.json.parse ⟨plainBooks.hints, "books"⟩ none
          "\x7b\"!type\": \"\"\x7d".toUTF8 = .ok v
        ∧ forward (.sole plainBooks) plainBooks v = .ok w ∧ reverse (.sole plainBooks) w = .ok u
        ∧ ¬u.Named ∧ YamlTree.ofValue u = .error .emptyTag := by
  have parsed : Codec.json.parse ⟨plainBooks.hints, "books"⟩ none
      "\x7b\"!type\": \"\"\x7d".toUTF8 = .ok (.resource "" []) := by cbv
  refine ⟨by decide +kernel, .resource "" [], .resource "" [], .resource "" [], parsed, rfl, rfl,
    fun named => ?_, rfl⟩
  exact (Value.everywhere_resource.1 named).1 rfl

end Transform

end RestService
