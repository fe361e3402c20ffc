import RestService.Proofs.Collection.Inverse
import RestService.Proofs.Collection.Register

set_option autoImplicit false

namespace RestService

namespace Transform

variable {catalogue : Catalogue} {c : CollectionSchema} {r s : Resource}

/-- `s` is what the rules of the collection make of `r`, or `r` itself if there are none. -/
def Processed (c : CollectionSchema) (r s : Resource) : Prop :=
  if c.rules.isEmpty then s = r else c.rules.process r = .ok s

theorem Processed.internalType_eq (processed : Processed c r s)
    (fromType : c.rules.TypeFromType .forward) (own : r.typeName = c.contains) :
    c.internalType = s.typeName := by
  unfold Processed at processed
  rw [CollectionSchema.internalType, ← own]
  by_cases plain : c.rules = []
  · rw [plain] at processed ⊢
    rw [show s = r from processed]
    rfl
  · rw [if_neg (by simpa using plain)] at processed
    rw [← Ruleset.typeAfter_forward, fromType.typeAfter_of_apply plain processed]

theorem Processed.convert_eq (processed : Processed c r s) :
    convert (some c) .forward r = .ok s.toValue := by
  unfold Processed at processed
  unfold convert
  simp only
  split at processed
  · rename_i plain
    rw [if_pos plain, processed]
  · rename_i full
    rw [if_neg full]
    change c.rules.apply .forward {} r = .ok s at processed
    rw [processed]

/-- Take a collection whose rules make types of types only. What it makes of a record of its own
type belongs to it by its type inside, as the record did by its type outside: on the way in and on
the way back, records of these types are converted by its rules, and so they are when further
collections have been added. -/
theorem owner_kept {specs : List CollectionSpec} (built : Catalogue.ofSpecs specs = .ok catalogue)
    (mem : c ∈ catalogue) (fromType : c.rules.TypeFromType .forward)
    (own : r.typeName = c.contains) (processed : Processed c r s) :
    catalogue.byInternalType? s.typeName = some c
    ∧ internalize catalogue r = .ok s.toValue
    ∧ (∀ inner, internalize catalogue ⟨r.typeName, inner⟩
      = convert (some c) .forward ⟨r.typeName, inner⟩)
    ∧ (∀ path? fields, reverseNode catalogue path? (.resource s.typeName fields)
      = (reverseFields catalogue (path?.getD (rootPath s.typeName)) fields >>= fun inner =>
          convert (some c) .backward ⟨s.typeName, inner⟩))
    ∧ ∀ more larger, Catalogue.ofSpecs (specs ++ more) = .ok larger →
      larger.byInternalType? s.typeName = some c := by
  have inside : c.internalType = s.typeName := processed.internalType_eq fromType own
  have found {all : Catalogue} (mem : c ∈ all) : all.byInternalType? s.typeName = some c := by
    rw [← inside, Catalogue.byInternalType?_internalType mem]
  have outside : catalogue.byExternalType? r.typeName = some c := by
    rw [own, Catalogue.byExternalType?_contains mem]
  refine ⟨found mem, ?_, fun inner => ?_, fun path? fields => ?_, fun more larger grown => ?_⟩
  · rw [internalize, outside, processed.convert_eq]
  · rw [internalize, outside]
  · simp only [reverseNode, externalize, found mem]
  · exact found (Catalogue.mem_of_ofSpecs_append built mem grown)

/-- A collection with its own type for clients, and authors in title case inside. -/
def authoredBooks : CollectionSchema where
  spec :=
    { name := "books"
      contains := "book"
      entityTransform := "title(!type) <=> lower(!type)\ntitle(author) => Author" }
  rules :=
    [⟨⟨typeKey, [.title]⟩, .both, ⟨typeKey, [.lower]⟩, false⟩,
      ⟨⟨"author", [.title]⟩, .forward, ⟨"Author", []⟩, false⟩]
  hints := []

def tags : CollectionSchema := ⟨{ name := "tags", contains := "tag" }, [], []⟩

def titles : CollectionSchema := ⟨{ name := "titles", contains := "title" }, [], []⟩

/-- The catalogue of the tags and the books. -/
def library : Catalogue := (Catalogue.sole tags).push authoredBooks (by decide +kernel)

/-- The books are found with a collection before and one after them. -/
theorem owner_kept_books :
    Processed authoredBooks ⟨"book", [("author", .text "herbert")]⟩
        ⟨"Book", [("Author", .text "Herbert")]⟩
      ∧ Catalogue.ofSpecs [tags.spec, authoredBooks.spec] = .ok library
      ∧ library.byInternalType? "Book" = some authoredBooks
      ∧ ∃ larger, Catalogue.ofSpecs ([tags.spec, authoredBooks.spec] ++ [titles.spec]) = .ok larger
        ∧ larger.byInternalType? "Book" = some authoredBooks := by
  have built : Catalogue.ofSpecs [tags.spec, authoredBooks.spec] = .ok library := by decide +kernel
  have grown : Catalogue.ofSpecs ([tags.spec, authoredBooks.spec] ++ [titles.spec])
      = .ok (library.push titles (by decide +kernel)) := by decide +kernel
  have fromType : authoredBooks.rules.TypeFromType .forward := by decide
  have processed : Processed authoredBooks ⟨"book", [("author", .text "herbert")]⟩
      ⟨"Book", [("Author", .text "Herbert")]⟩ := rfl
  have mem : authoredBooks ∈ library := List.mem_cons_of_mem tags List.mem_cons_self
  obtain ⟨found, -, -, -, still⟩ := owner_kept built mem fromType rfl processed
  exact ⟨processed, built, found, _, grown, still _ _ grown⟩

end Transform

end RestService
