import RestService.Proofs.Result
import RestService.Rule.Ruleset

set_option autoImplicit false

namespace RestService

namespace Conversion

theorem exists_of_toInt {v w : Value} (converted : toInt v = .ok w) :
    v.isScalar = true ∧ ∃ n, w = .int n := by
  unfold toInt at converted
  split at converted
  · exact ⟨rfl, _, (Except.ok.inj converted).symm⟩
  · exact ⟨rfl, _, (Except.ok.inj converted).symm⟩
  · obtain ⟨n, -, same⟩ := Result.map_eq_ok.1 converted
    exact ⟨rfl, n, same.symm⟩
  · split at converted
    · exact ⟨rfl, _, (Except.ok.inj converted).symm⟩
    · cases converted
  · cases converted

theorem exists_of_toFloat {v w : Value} (converted : toFloat v = .ok w) :
    v.isScalar = true ∧ ∃ x, w = .float x := by
  unfold toFloat at converted
  split at converted
  · exact ⟨rfl, _, (Except.ok.inj converted).symm⟩
  · exact ⟨rfl, _, (Except.ok.inj converted).symm⟩
  · split at converted
    · exact ⟨rfl, _, (Except.ok.inj converted).symm⟩
    · cases converted
  · cases converted

theorem exists_of_toText {v w : Value} (converted : toText v = .ok w) :
    ∃ s, v.scalarText? = some s ∧ w = .text s := by
  unfold toText at converted
  split at converted
  · rename_i s text
    exact ⟨s, text, (Except.ok.inj converted).symm⟩
  · cases converted

theorem isScalar_of_scalarText? {v : Value} {s : String} (text : v.scalarText? = some s) :
    v.isScalar = true := by
  cases v with
  | null | list | mapping | resource => cases text
  | _ => rfl

theorem exists_of_toBool {v w : Value} (converted : toBool v = .ok w) :
    v.isScalar = true ∧ ∃ b, w = .bool b := by
  unfold toBool at converted
  split at converted
  · exact ⟨rfl, _, (Except.ok.inj converted).symm⟩
  · exact ⟨rfl, _, (Except.ok.inj converted).symm⟩
  · split at converted
    · exact ⟨rfl, _, (Except.ok.inj converted).symm⟩
    · cases converted
  · cases converted

theorem exists_of_mapText {f : String → String} {v w : Value} (converted : mapText f v = .ok w) :
    ∃ s, v = .text s ∧ w = .text (f s) := by
  unfold mapText at converted
  split at converted
  · rename_i s
    exact ⟨s, rfl, (Except.ok.inj converted).symm⟩
  · cases converted

theorem isScalar_of_apply {c : Conversion} {v w : Value} (applied : c.apply v = .ok w) :
    v.isScalar = true ∧ w.isScalar = true := by
  unfold apply at applied
  split at applied
  · cases applied
    exact ⟨rfl, rfl⟩
  · cases c with
    | int =>
      obtain ⟨scalar, n, rfl⟩ := exists_of_toInt applied
      exact ⟨scalar, rfl⟩
    | float =>
      obtain ⟨scalar, x, rfl⟩ := exists_of_toFloat applied
      exact ⟨scalar, rfl⟩
    | bool =>
      obtain ⟨scalar, b, rfl⟩ := exists_of_toBool applied
      exact ⟨scalar, rfl⟩
    | str =>
      obtain ⟨s, text, rfl⟩ := exists_of_toText applied
      exact ⟨isScalar_of_scalarText? text, rfl⟩
    | lower | upper | title =>
      obtain ⟨s, rfl, rfl⟩ := exists_of_mapText applied
      exact ⟨rfl, rfl⟩

end Conversion

namespace RuleSide

/-- The empty chain leaves every value alone. -/
theorem convert_of_plain {side : RuleSide} (plain : side.conversions = []) (v : Value) :
    side.convert v = .ok v := by
  obtain ⟨field, conversions⟩ := side
  subst plain
  rfl

theorem eq_of_plain {side : RuleSide} (plain : side.conversions = []) {v w : Value}
    (converted : side.convert v = .ok w) : v = w :=
  Except.ok.inj ((convert_of_plain plain v).symm.trans converted)

theorem convert_cons {field : String} {c : Conversion} {cs : List Conversion} {v w : Value}
    (converted : convert ⟨field, c :: cs⟩ v = .ok w) :
    ∃ u, c.apply v = .ok u ∧ convert ⟨field, cs⟩ u = .ok w := by
  rw [convert, List.foldlM_cons] at converted
  obtain ⟨u, first, rest⟩ := Result.bind_eq_ok.1 converted
  refine ⟨u, ?_, rest⟩
  split at first
  · rename_i same
    rw [same, Except.ok.inj first]
  · cases first

/-- A chain leaves a list or a record alone, or fails. -/
theorem conversions_eq_nil {s : RuleSide} {v w : Value} (structured : v.isScalar = false)
    (converted : s.convert v = .ok w) : s.conversions = [] := by
  obtain ⟨field, conversions⟩ := s
  cases conversions with
  | nil => rfl
  | cons c cs =>
    obtain ⟨u, first, -⟩ := convert_cons converted
    rw [(Conversion.isScalar_of_apply first).1] at structured
    cases structured

theorem isScalar_of_convert {s : RuleSide} {v w : Value} (scalar : v.isScalar = true)
    (converted : s.convert v = .ok w) : w.isScalar = true := by
  obtain ⟨field, conversions⟩ := s
  induction conversions generalizing v with
  | nil =>
    rw [← Except.ok.inj converted]
    exact scalar
  | cons c cs ih =>
    obtain ⟨u, first, rest⟩ := convert_cons converted
    exact ih (Conversion.isScalar_of_apply first).2 rest

end RuleSide

end RestService
