import RestService.Collection.Schema
import RestService.Proofs.Rule.Grammar
import RestService.Proofs.Rule.Ruleset
import RestService.Proofs.Text.Ascii

set_option autoImplicit false

namespace RestService

/-- The rule by which a type is in title case inside, and in lower case for clients. -/
def Rule.titling : Rule := ⟨⟨typeKey, [.title]⟩, .both, ⟨typeKey, [.lower]⟩, false⟩

/-- So it is written. -/
theorem Rule.parse_titling (line : Nat) :
    Rule.parse "title(!type) <=> lower(!type)" line = .ok titling := by
  have once : Rule.parse "title(!type) <=> lower(!type)" 1 = .ok titling := by decide +kernel
  exact parse_text once line

namespace Ruleset

/-- One of the rules, and no other, is about the type of records: it puts it in title case. -/
structure Titles (rules : Ruleset) : Prop where
  mem : Rule.titling ∈ rules
  only : ∀ rule ∈ rules, rule.left.field = typeKey ∨ rule.right.field = typeKey →
    rule = Rule.titling

/-- What a change of case makes of a type, on the way in or back. -/
def cased : Way → String → String
  | .forward => Text.title
  | .backward => Text.lower

variable {rules : Ruleset} {way : Way} {rule : Rule} {r made : Resource} {leniency : Leniency}

theorem convert_titling (way : Way) (typeName : String) :
    (Rule.titling.source way).convert (.text typeName) = .ok (.text (cased way typeName)) := by
  cases way <;> rfl

theorem Titles.eq_of_source (titles : rules.Titles) (mem : rule ∈ rules)
    (source : (rule.source way).field = typeKey) : rule = Rule.titling := by
  cases way with
  | forward => exact titles.only rule mem (.inl source)
  | backward => exact titles.only rule mem (.inr source)

theorem Titles.eq_of_target (titles : rules.Titles) (mem : rule ∈ rules)
    (target : (rule.target way).field = typeKey) : rule = Rule.titling := by
  cases way with
  | forward => exact titles.only rule mem (.inr target)
  | backward => exact titles.only rule mem (.inl target)

theorem writes_titling (way : Way) (r : Resource) : writes way r typeKey Rule.titling = true := by
  cases way <;> rfl

theorem Titles.lastWriter_eq (titles : rules.Titles) (way : Way) (r : Resource) :
    lastWriter rules way r typeKey = some Rule.titling := by
  cases last : lastWriter rules way r typeKey with
  | none =>
    have mem := List.mem_filter.2 ⟨titles.mem, writes_titling way r⟩
    rw [List.getLast?_eq_none_iff.1 last] at mem
    exact absurd mem List.not_mem_nil
  | some rule =>
    obtain ⟨mem, written⟩ := mem_of_lastWriter last
    obtain ⟨-, target, -⟩ := writes_iff.1 written
    rw [titles.eq_of_target mem target]

/-- Whatever else the rules do to a record, they change the case of its type. -/
theorem Titles.typeName_of_apply (titles : rules.Titles)
    (applied : rules.apply way leniency r = .ok made) : made.typeName = cased way r.typeName := by
  have found : valueAt r (Rule.titling.source way).field = some (.text r.typeName) := by
    cases way <;> rfl
  have carries := (written_of_apply applied).retyped _ (titles.lastWriter_eq way r)
  rw [carried_eq_some found (convert_titling way r.typeName)] at carries
  exact (Value.text.inj (Option.some.inj carries)).symm

/-- A record without fields has nothing but its type to be read. -/
theorem field_of_bare {typeName : String} {v : Value}
    (found : valueAt ⟨typeName, []⟩ (rule.source way).field = some v) :
    (rule.source way).field = typeKey ∧ v = .text typeName := by
  by_cases source : (rule.source way).field = typeKey
  · rw [source, valueAt_typeKey] at found
    exact ⟨source, (Option.some.inj found).symm⟩
  · rw [valueAt_of_ne source] at found
    cases found

/-- Where no field is missed, the rules make a record without fields of one, and change the case of
its type. -/
theorem Titles.apply_bare (titles : rules.Titles) (way : Way) (typeName : String) :
    rules.apply way ⟨true, true⟩ ⟨typeName, []⟩ = .ok ⟨cased way typeName, []⟩ := by
  have settled : ∀ rule ∈ rules, rule.goes way = true →
      Settled way ⟨true, true⟩ ⟨typeName, []⟩ rule := by
    intro rule mem _
    refine ⟨fun v found => ?_, fun _ _ => rfl⟩
    obtain ⟨source, rfl⟩ := field_of_bare found
    obtain rfl := titles.eq_of_source mem source
    exact ⟨_, convert_titling way typeName, fun _ => ⟨_, rfl⟩⟩
  obtain ⟨⟨name, fields⟩, applied⟩ := exists_apply settled (.inl rfl)
  have written := written_of_apply applied
  have unwritten : ∀ key, key = typeKey ∨ lastWriter rules way ⟨typeName, []⟩ key = none := by
    intro key
    cases last : lastWriter rules way ⟨typeName, []⟩ key with
    | none => exact .inr rfl
    | some rule =>
      obtain ⟨mem, writer⟩ := mem_of_lastWriter last
      obtain ⟨-, target, v, found⟩ := writes_iff.1 writer
      obtain rfl := titles.eq_of_source mem (field_of_bare found).1
      left
      rw [← target]
      cases way <;> rfl
  have empty : fields = [] :=
    Dict.ext written.sorted List.Pairwise.nil fun key => written.noField key (unwritten key)
  have same : name = cased way typeName := titles.typeName_of_apply applied
  rw [applied, empty, same]

/-- Records of the type `outer` become records of the type `inner`: by the conversions of the one
rule about types, whatever other fields a record has; and a record without fields does become one,
where no field is missed. -/
structure Retypes (rules : Ruleset) (way : Way) (outer inner : String) : Prop where
  converts : (Rule.titling.source way).convert (.text outer) = .ok (.text inner)
  typeName : ∀ leniency fields made, rules.apply way leniency ⟨outer, fields⟩ = .ok made →
    made.typeName = inner
  bare : rules.apply way ⟨true, true⟩ ⟨outer, []⟩ = .ok ⟨inner, []⟩

theorem Titles.retypes (titles : rules.Titles) {outer inner : String}
    (becomes : cased way outer = inner) : rules.Retypes way outer inner := by
  subst becomes
  exact ⟨convert_titling way outer, fun _ _ _ applied => titles.typeName_of_apply applied,
    titles.apply_bare way outer⟩

theorem Titles.probeType_eq (titles : rules.Titles) (typeName : String) :
    rules.probeType typeName = Text.title typeName := by
  rw [probeType, titles.apply_bare .forward typeName]
  rfl

theorem Titles.internalType_eq (titles : rules.Titles) (typeName : String) :
    rules.internalType typeName = Text.title typeName := by
  have full : rules.isEmpty = false := by
    rw [List.isEmpty_eq_false_iff]
    exact List.ne_nil_of_mem titles.mem
  rw [internalType, full, if_neg Bool.false_ne_true, titles.probeType_eq]

end Ruleset

/-- Title case does not depend on the case that a text of ASCII characters has before, and lower
case undoes it for the texts without capitals. So a collection with such a type, of whose rules only
the one that puts types in title case is about types, gives its records that type in title case, and
takes it back from them. -/
theorem title_exact (s : String) (ascii : Text.AllAscii s.toList) :
    Text.title (Text.title s) = Text.title s
    ∧ Text.title (Text.lower s) = Text.title s ∧ Text.title (Text.upper s) = Text.title s
    ∧ Text.lower (Text.title s) = Text.lower s
    ∧ (Text.lower (Text.title s) = s ↔ ∀ c ∈ s.toList, c.isUpper = false)
    ∧ ∀ collection : CollectionSchema, collection.contains = s →
      (∀ c ∈ s.toList, c.isUpper = false) → collection.rules.Titles →
      collection.internalType = Text.title s
      ∧ collection.rules.probeType s = collection.internalType
      ∧ collection.rules.Retypes .forward s collection.internalType
      ∧ collection.rules.Retypes .backward collection.internalType s := by
  have small : Text.lower (Text.title s) = s ↔ ∀ c ∈ s.toList, c.isUpper = false := by
    rw [Text.lower_title ascii]
    exact Text.lower_eq_self_iff ascii
  refine ⟨Text.title_title ascii, Text.title_lower ascii, Text.title_upper ascii,
    Text.lower_title ascii, small, fun collection named lower titles => ?_⟩
  have inside : collection.internalType = Text.title s := by
    rw [CollectionSchema.internalType, titles.internalType_eq, named]
  rw [inside]
  exact ⟨rfl, titles.probeType_eq s, titles.retypes rfl, titles.retypes (small.2 lower)⟩

/-- A collection with a type of three words and a digit, and rules about fields beside the one about
types. -/
def novels : CollectionSchema where
  spec :=
    { name := "novels"
      contains := "sci-fi book2"
      entityTransform :=
        "title <=> Title *\ntitle(!type) <=> lower(!type)\nint(year) => Year" }
  rules :=
    [⟨⟨"title", []⟩, .both, ⟨"Title", []⟩, true⟩, Rule.titling,
      ⟨⟨"year", [.int]⟩, .forward, ⟨"Year", []⟩, false⟩]
  hints := []

theorem title_exact_novels :
    CollectionSchema.ofSpec novels.spec = .ok novels ∧ Text.AllAscii "sci-fi book2".toList
      ∧ (∀ c ∈ "sci-fi book2".toList, c.isUpper = false) ∧ novels.rules.Titles
      ∧ Text.title "sci-fi book2" = "Sci-Fi Book2" ∧ Text.title "Sci-Fi Book2" = "Sci-Fi Book2"
      ∧ Text.lower "Sci-Fi Book2" = "sci-fi book2"
      ∧ novels.rules.probeType "sci-fi book2" = "Sci-Fi Book2"
      ∧ novels.rules.Retypes .forward "sci-fi book2" "Sci-Fi Book2"
      ∧ novels.rules.Retypes .backward "Sci-Fi Book2" "sci-fi book2" := by
  have read : CollectionSchema.ofSpec novels.spec = .ok novels := by decide +kernel
  have ascii : Text.AllAscii "sci-fi book2".toList := by decide
  have lower : ∀ c ∈ "sci-fi book2".toList, c.isUpper = false := by simp
  have titles : novels.rules.Titles := ⟨by decide, by decide⟩
  have titled : Text.title "sci-fi book2" = "Sci-Fi Book2" := by decide
  obtain ⟨again, -, -, -, small, types⟩ := title_exact "sci-fi book2" ascii
  obtain ⟨inside, probed, forth, back⟩ := types novels rfl lower titles
  rw [inside, titled] at probed forth back
  rw [titled] at again small
  exact ⟨read, ascii, lower, titles, titled, again, small.2 lower, probed, forth, back⟩

end RestService
