import RestService.Proofs.Collection.Shape
import RestService.Proofs.Rule.Ruleset

set_option autoImplicit false

namespace RestService

namespace Transform

variable {catalogue : Catalogue} {hints : Hints} {own : CollectionSchema}

theorem typed_of_convert {owner? : Option CollectionSchema} {way : Way} {r : Resource} {w : Value}
    (converted : convert owner? way r = .ok w) (inner : ∀ entry ∈ r.fields, entry.2.Typed) :
    w.Typed := by
  unfold convert at converted
  split at converted
  · cases converted
    exact .resource trivial inner
  · split at converted
    · cases converted
      exact .resource trivial inner
    · split at converted
      · rename_i made applied
        cases converted
        exact .resource trivial (Ruleset.holds_of_apply (fun _ => .scalar) inner applied)
      · cases converted

/-- A record has no mapping in it if none is left in its fields. -/
theorem typed_of_forwardFields {path typeName : String} {fields : Fields} {w : Value}
    (each : ∀ entry ∈ fields, ∀ path w, forwardNode catalogue hints path entry.2 = .ok w → w.Typed)
    (shaped : (forwardFields catalogue hints path fields >>= fun inner =>
      internalize catalogue ⟨typeName, inner⟩) = .ok w) : w.Typed := by
  obtain ⟨inner, below, here⟩ := Result.bind_eq_ok.1 shaped
  rw [forwardFields_eq_mapM, Result.mapM_eq_ok] at below
  refine typed_of_convert here fun entry mem => ?_
  obtain ⟨origin, inside, found⟩ := Result.exists_of_mem_right below mem
  obtain ⟨v, there, same⟩ := Result.map_eq_ok.1 found
  rw [← same]
  exact each origin inside _ _ there

/-- Below the root no mapping is left. -/
theorem typed_of_forwardNode {v w : Value} {path : String}
    (shaped : forwardNode catalogue hints path v = .ok w) : w.Typed := by
  induction v using Value.induct generalizing path w with
  | scalar v simple =>
    rw [forwardNode_of_isScalar simple] at shaped
    cases shaped
    exact .scalar simple
  | list items ih =>
    rw [forwardNode, forwardItems_eq_mapM] at shaped
    obtain ⟨inner, each, same⟩ := Result.map_eq_ok.1 shaped
    rw [← same]
    refine .list fun item mem => ?_
    obtain ⟨origin, inside, found⟩ := Result.exists_of_mem_right (Result.mapM_eq_ok.1 each) mem
    exact ih origin inside found
  | mapping fields ih =>
    rw [forwardNode] at shaped
    split at shaped
    · cases shaped
    · exact typed_of_forwardFields (fun entry mem _ _ found => ih entry mem found) shaped
  | resource typeName fields ih =>
    rw [forwardNode] at shaped
    exact typed_of_forwardFields (fun entry mem _ _ found => ih entry mem found) shaped

/-- A root is left without a mapping, or it is a list and left alone. -/
theorem forwardRoot_cases {v w : Value} (shaped : forwardRoot catalogue own v = .ok w) :
    (∃ items, v = .list items ∧ w = v) ∨ (∀ items, v ≠ .list items) ∧ w.Typed := by
  have each (fields : Fields) : ∀ entry ∈ fields, ∀ path w,
      forwardNode catalogue own.hints path entry.2 = .ok w → w.Typed :=
    fun _ _ _ _ found => typed_of_forwardNode found
  cases v with
  | list items =>
    cases shaped
    exact .inl ⟨items, rfl, rfl⟩
  | mapping fields =>
    exact .inr ⟨fun _ => Value.noConfusion, typed_of_forwardFields (each fields) shaped⟩
  | resource typeName fields =>
    exact .inr ⟨fun _ => Value.noConfusion, typed_of_forwardFields (each fields) shaped⟩
  | _ =>
    cases shaped
    exact .inr ⟨fun _ => Value.noConfusion, .scalar rfl⟩

/-- The internal shape of an entity is free of mappings exactly if no list directly in a list at the
root has one: every other mapping has got a type by its place or has been refused. -/
theorem typed_forward_iff (catalogue : Catalogue) (own : CollectionSchema) (v w : Value)
    (shaped : forward catalogue own v = .ok w) :
    w.Typed ↔ ∀ items, v = .list items → ∀ inner, .list inner ∈ items →
      (Value.list inner).Typed := by
  by_cases listed : ∃ items, v = .list items
  · obtain ⟨items, rfl⟩ := listed
    obtain ⟨shapes, each, rfl⟩ := Result.map_eq_ok.1 shaped
    have each := Result.mapM_eq_ok.1 each
    constructor
    · intro typed _ same inner mem
      cases same
      obtain ⟨shape, inside, found⟩ := Result.exists_of_mem_left each mem
      rcases forwardRoot_cases found with ⟨-, -, rfl⟩ | ⟨noList, -⟩
      · exact typed.of_list _ inside
      · exact absurd rfl (noList inner)
    · intro lists
      refine .list fun shape mem => ?_
      obtain ⟨item, inside, found⟩ := Result.exists_of_mem_right each mem
      rcases forwardRoot_cases found with ⟨inner, rfl, rfl⟩ | ⟨-, typed⟩
      · exact lists items rfl inner inside
      · exact typed
  · have root : forwardRoot catalogue own v = .ok w := by
      cases v with
      | list items => exact absurd ⟨items, rfl⟩ listed
      | _ => exact shaped
    rcases forwardRoot_cases root with ⟨items, same, -⟩ | ⟨-, typed⟩
    · exact absurd ⟨items, same⟩ listed
    · exact ⟨fun _ items same => absurd ⟨items, same⟩ listed, fun _ => typed⟩

/-- A collection that takes every mapping for one of its own records, wherever it stands. -/
def hintedBooks : CollectionSchema where
  spec := { name := "books", contains := "book", parseHints := "*: type=book" }
  rules := []
  hints := [⟨"*", { typeName? := some "book" }⟩]

theorem typed_forward_iff_books :
    forward (.sole hintedBooks) hintedBooks (.list [.mapping [("sequel", .mapping [])]])
        = .ok (.list [.resource "book" [("sequel", .resource "book" [])]])
      ∧ (Value.list [.resource "book" [("sequel", .resource "book" [])]]).Typed := by
  have shaped : forward (.sole hintedBooks) hintedBooks (.list [.mapping [("sequel", .mapping [])]])
      = .ok (.list [.resource "book" [("sequel", .resource "book" [])]]) := rfl
  refine ⟨shaped, (typed_forward_iff _ _ _ _ shaped).2 fun items same inner mem => ?_⟩
  cases same
  cases List.mem_singleton.1 mem

/-- A mapping in a list in a list at the root gets no type, although a hint gives every path one, and
the way back fails on it. -/
theorem exists_forward_untyped :
    Catalogue.ofSpecs [hintedBooks.spec] = .ok (.sole hintedBooks)
      ∧ ∃ v w, forward (.sole hintedBooks) hintedBooks v = .ok w ∧ ¬w.Typed
        ∧ ∃ path, reverse (.sole hintedBooks) w = .error (.untyped path) := by
  refine ⟨by decide +kernel, .list [.list [.mapping []]], .list [.list [.mapping []]], rfl,
    fun typed => ?_, "/", rfl⟩
  have inner := typed.of_list _ List.mem_cons_self
  exact (inner.of_list _ List.mem_cons_self).not_mapping

end Transform

end RestService
