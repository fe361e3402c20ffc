import RestService.Proofs.Rule.Ruleset
import RestService.Proofs.Text.Order

set_option autoImplicit false

namespace RestService.Ruleset

variable {rules : Ruleset} {way : Way} {leniency : Leniency} {r : Resource}

/-- `key` is the first field, in the order of bytes, that no rule names on the side that is read. -/
structure FirstUnlisted (rules : Ruleset) (way : Way) (r : Resource) (key : String) : Prop where
  mem : key ∈ Dict.keys r.fields
  unlisted : ∀ rule ∈ rules, (rule.source way).field ≠ key
  first : ∀ other ∈ Dict.keys r.fields, (∀ rule ∈ rules, (rule.source way).field ≠ other) →
    other = key ∨ Text.BytesBefore key other

theorem knows_eq_false_iff {field : String} :
    rules.knows way field = false ↔ ∀ rule ∈ rules, (rule.source way).field ≠ field := by
  rw [← Bool.not_eq_true, knows_iff]
  simp

/-- What is found first in a record comes before all else that could be found. -/
theorem firstUnlisted_of_find? (sorted : Dict.Sorted r.fields) {key : String}
    (found : (Dict.keys r.fields).find? (fun key => !rules.knows way key) = some key) :
    FirstUnlisted rules way r key := by
  obtain ⟨unknown, before, after, split, listed⟩ := List.find?_eq_some_iff_append.1 found
  have ascending : (Dict.keys r.fields).Pairwise (· < ·) := List.pairwise_map.2 sorted
  refine ⟨List.mem_of_find?_eq_some found, ?_, fun other mem unlisted => ?_⟩
  · exact knows_eq_false_iff.1 (by simpa using unknown)
  · rw [split] at mem ascending
    rcases List.mem_append.1 mem with early | late
    · have known := listed other early
      rw [knows_eq_false_iff.2 unlisted] at known
      cases known
    · rcases List.mem_cons.1 late with rfl | later
      · exact .inl rfl
      · have above := (List.pairwise_cons.1 (List.pairwise_append.1 ascending).2.1).1
        exact .inr (Text.bytesBefore_of_lt (above other later))

/-- Where only a field is unknown, the error names the first of them. -/
theorem exists_apply_eq_unknown (sorted : Dict.Sorted r.fields)
    (settled : ∀ rule ∈ rules, rule.goes way = true → Settled way leniency r rule)
    (refused : ¬rules.Admits way leniency r) :
    ∃ key, FirstUnlisted rules way r key ∧ rules.apply way leniency r = .error (.unknown key) := by
  obtain ⟨draft, ran⟩ := foldlM_of_settled settled {}
  rw [admits_iff, ← ne_eq, Option.ne_none_iff_exists'] at refused
  obtain ⟨key, unknown⟩ := refused
  have strict : leniency.ignoreUnknown = false := by
    cases lenient : leniency.ignoreUnknown with
    | true => simp [lenient] at unknown
    | false => rfl
  refine ⟨key, firstUnlisted_of_find? sorted ?_, ?_⟩
  · simpa [strict] using unknown
  · rw [apply, ran]
    simp only [unknown]

/-- Rules make a record of `r` exactly if each rule that goes has what it needs and every field is
named by some rule, as far as neither is waived. The type name and the fields of what they make are
those that the last rule for each has written, and if nothing but unknown fields stands in the way,
the error names the first of them. -/
theorem apply_exact (rules : Ruleset) (way : Way) (leniency : Leniency) (r : Resource)
    (sorted : Dict.Sorted r.fields) :
    ((∃ made, rules.apply way leniency r = .ok made)
      ↔ (∀ rule ∈ rules, rule.goes way = true → Settled way leniency r rule)
        ∧ rules.Admits way leniency r)
    ∧ (∀ made, rules.apply way leniency r = .ok made → Written rules way r made)
    ∧ ((∀ rule ∈ rules, rule.goes way = true → Settled way leniency r rule) →
      ¬rules.Admits way leniency r → ∃ key, FirstUnlisted rules way r key
        ∧ rules.apply way leniency r = .error (.unknown key)) := by
  refine ⟨⟨?_, fun both => exists_apply both.1 both.2⟩, fun made => written_of_apply,
    exists_apply_eq_unknown sorted⟩
  rintro ⟨made, applied⟩
  obtain ⟨draft, ran, admitted, -⟩ := apply_eq_ok_iff_exists_draft.1 applied
  exact ⟨settled_of_foldlM ran, admitted⟩

/-- Rules of which two write one field, one writes the type of a record and one only goes back. -/
def layered : Ruleset :=
  [⟨⟨"author", []⟩, .forward, ⟨"maker", []⟩, true⟩,
    ⟨⟨"author", [.title]⟩, .both, ⟨"maker", []⟩, false⟩,
    ⟨⟨"class", []⟩, .forward, ⟨typeKey, []⟩, false⟩,
    ⟨⟨typeKey, []⟩, .forward, ⟨"kind", []⟩, false⟩,
    ⟨⟨"shelf", []⟩, .backward, ⟨"Shelf", []⟩, true⟩]

/-- A record with two fields that these rules do not know, and one that they know on the way
back. -/
def layeredBook : Resource where
  typeName := "book"
  fields := [("author", .text "herbert"), ("class", .text "novel"), ("pages", .null),
    ("shelf", .null), ("year", .null)]

theorem apply_exact_layered :
    Dict.Sorted layeredBook.fields
      ∧ layered.apply .forward ⟨true, false⟩ layeredBook
        = .ok ⟨"novel", [("kind", .text "book"), ("maker", .text "Herbert")]⟩
      ∧ Written layered .forward layeredBook
        ⟨"novel", [("kind", .text "book"), ("maker", .text "Herbert")]⟩
      ∧ ∃ key, FirstUnlisted layered .forward layeredBook key
        ∧ layered.apply .forward {} layeredBook = .error (.unknown key) := by
  have sorted : Dict.Sorted layeredBook.fields := by decide
  have applied : layered.apply .forward ⟨true, false⟩ layeredBook
      = .ok ⟨"novel", [("kind", .text "book"), ("maker", .text "Herbert")]⟩ := rfl
  have ran : layered.foldlM (step .forward {} layeredBook) ({} : Draft)
      = .ok ⟨some "novel", [("kind", .text "book"), ("maker", .text "Herbert")]⟩ := rfl
  have refused : ¬layered.Admits .forward {} layeredBook := by
    rw [admits_iff]
    decide
  obtain ⟨-, written, -⟩ := apply_exact layered .forward ⟨true, false⟩ layeredBook sorted
  obtain ⟨-, -, unknown⟩ := apply_exact layered .forward {} layeredBook sorted
  exact ⟨sorted, applied, written _ applied, unknown (settled_of_foldlM ran) refused⟩

end RestService.Ruleset
