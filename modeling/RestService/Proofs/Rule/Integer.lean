import RestService.Proofs.Decimal.Numeral
import RestService.Proofs.Result
import RestService.Proofs.Text.Blank
import RestService.Proofs.Text.Bytes
import RestService.Rule.Conversion

set_option autoImplicit false

namespace RestService

open Decimal (Numeral Canonical Writes)

/-- There is no blank in a numeral. -/
theorem Decimal.Numeral.solid {cs : List Char} {n : Int} (numeral : Numeral cs n) :
    ∀ c ∈ cs, Text.isBlank c = false := by
  have digits {cs : List Char} {m : Nat} (written : Writes cs m) :
      ∀ c ∈ cs, Text.isBlank c = false := by
    intro c mem
    have decimal := written.decimal c mem
    have plain : c.isAlphanum = true := by rw [Char.isAlphanum, decimal, Bool.or_true]
    apply Text.isBlank_of_isPrintable (Text.isPrintable_of_isAlphanum plain)
    rintro rfl
    cases decimal
  cases numeral with
  | plain written => exact digits written
  | plus written => exact List.forall_mem_cons.2 ⟨by decide, digits written⟩
  | minus written => exact List.forall_mem_cons.2 ⟨by decide, digits written⟩

namespace Conversion

theorem apply_int_text (s : String) : int.apply (.text s) = toInt (.text s) := rfl

theorem apply_str_int (n : Int64) : str.apply (.int n) = .ok (.text (toString n.toInt)) := rfl

theorem apply_int_eq_ok_iff {s : String} {v : Value} : int.apply (.text s) = .ok v
    ↔ ∃ n : Int64, v = .int n ∧ Numeral (Text.trim s).toList n.toInt := by
  rw [apply_int_text, toInt]
  simp only [← Decimal.int64?_eq_some_iff]
  cases Decimal.int64? (Text.trim s) with
  | none => simp
  | some n => simp [eq_comm]

theorem apply_int_eq_error_iff {s : String} {failure : Failure} :
    int.apply (.text s) = .error failure ↔ failure = .notAnInteger s ∧ ∀ n,
      Numeral (Text.trim s).toList n → n < -(Decimal.twoTo 63) ∨ Decimal.twoTo 63 - 1 < n := by
  rw [apply_int_text, toInt, ← Decimal.int64?_eq_none_iff]
  cases Decimal.int64? (Text.trim s) with
  | none => simp [eq_comm]
  | some n => simp

/-- A canonical numeral is the text of the integer that it is converted to. -/
theorem apply_int_of_canonical {s : String} {n : Int64} (canonical : Canonical s.toList n.toInt) :
    int.apply (.text s) = .ok (.int n) ∧ str.apply (.int n) = .ok (.text s) := by
  have numeral := canonical.numeral
  have trimmed : Text.trim s = s := Text.trim_of_solid numeral.solid
  have written : s = toString n.toInt := String.toList_inj.1 canonical.eq_toList
  constructor
  · rw [apply_int_eq_ok_iff, trimmed]
    exact ⟨n, rfl, numeral⟩
  · rw [apply_str_int, ← written]

/-- A text is converted to an integer exactly if it is, between blanks, a numeral of an integer of
64 bits, and to that one; any other text is refused. An integer comes back from its text, and a
text comes back from the integer that it is converted to exactly if it is the canonical numeral of
one. -/
theorem int_exact (s : String) :
    (∀ v, int.apply (.text s) = .ok v
      ↔ ∃ n : Int64, v = .int n ∧ Numeral (Text.trim s).toList n.toInt)
    ∧ (∀ failure, int.apply (.text s) = .error failure ↔ failure = .notAnInteger s ∧ ∀ n,
      Numeral (Text.trim s).toList n → n < -(Decimal.twoTo 63) ∨ Decimal.twoTo 63 - 1 < n)
    ∧ (∀ n : Int64, (str.apply (.int n) >>= int.apply) = .ok (.int n))
    ∧ ((int.apply (.text s) >>= str.apply) = .ok (.text s)
      ↔ ∃ n : Int64, Canonical s.toList n.toInt) := by
  refine ⟨fun v => apply_int_eq_ok_iff, fun failure => apply_int_eq_error_iff, fun n => ?_, ?_⟩
  · have canonical : Canonical (toString n.toInt).toList n.toInt := Decimal.canonical_toString _
    obtain ⟨read, written⟩ := apply_int_of_canonical canonical
    exact Result.bind_eq_ok.2 ⟨_, written, read⟩
  · rw [Result.bind_eq_ok]
    constructor
    · rintro ⟨v, read, written⟩
      obtain ⟨n, rfl, -⟩ := apply_int_eq_ok_iff.1 read
      rw [apply_str_int, Except.ok.injEq, Value.text.injEq] at written
      refine ⟨n, ?_⟩
      rw [← written]
      exact Decimal.canonical_toString n.toInt
    · rintro ⟨n, canonical⟩
      exact ⟨.int n, apply_int_of_canonical canonical⟩

end Conversion

end RestService
