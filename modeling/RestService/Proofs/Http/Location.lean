import RestService.Collection.Memory
import RestService.Http.Request
import RestService.Proofs.Url.Text

set_option autoImplicit false

namespace RestService

open Text (AllPrintable IsPrintable)

namespace Request

theorem printable_of_header {r : Request} {name text : String} (read : r.header? name = some text) :
    ∀ c ∈ text.toList, IsPrintable c ∨ c = '\t' := by
  obtain ⟨value, -, visible⟩ := Option.bind_eq_some_iff.1 read
  exact HeaderValue.printable_of_text? visible

/-- A printable reference stays fit for a header when it is made absolute. -/
theorem ofText?_absoluteUrl {reference : String} (printable : AllPrintable reference.toList)
    (r : Request) (publicUrl? : Option String) :
    HeaderValue.ofText? (r.absoluteUrl publicUrl? reference)
      = some (r.absoluteUrl publicUrl? reference).toUTF8 := by
  apply HeaderValue.ofText?_of_printable
  unfold absoluteUrl
  split
  · exact fun c mem => .inl (printable c mem)
  · extract_lets joined?
    split
    · rename_i url found
      obtain ⟨text, -, read⟩ := Option.bind_eq_some_iff.1 found
      obtain ⟨whole, joined, same⟩ := Option.map_eq_some_iff.1 read
      obtain ⟨base, parsed, join⟩ := Option.bind_eq_some_iff.1 joined
      rw [← same]
      exact fun c mem => .inl (Url.join_text_allPrintable (Result.toOption_eq_some.1 parsed)
        (Result.toOption_eq_some.1 join) c mem)
    · rename_i host _ named
      have scheme : AllPrintable "http://".toList := by decide
      intro c mem
      rw [String.toList_append, String.toList_append] at mem
      rcases List.mem_append.1 mem with front | path
      · rcases List.mem_append.1 front with start | inside
        · exact .inl (scheme c start)
        · exact printable_of_header named c inside
      · exact .inl (printable c path)
    · exact fun c mem => .inl (printable c mem)

end Request

namespace Store

theorem allPrintable_location {name : String} (printable : AllPrintable name.toList) (id : Nat) :
    AllPrintable (location name id).toList := by
  have front : AllPrintable "/api/".toList := by decide
  have slash : AllPrintable "/".toList := AllPrintable.cons (by decide) .nil
  exact ((front.concat printable).concat slash).concat (Text.allPrintable_toString id)

end Store

end RestService
