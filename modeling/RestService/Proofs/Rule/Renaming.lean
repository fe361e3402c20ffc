import RestService.Proofs.Rule.Conversion
import RestService.Proofs.Rule.Invertible

set_option autoImplicit false

namespace RestService.Ruleset

/-- The rules rename: one of them may convert the type name, which is `typeName` for clients, and
all others leave values as they are. -/
structure Renames (rules : Ruleset) (typeName : String) : Prop where
  both : ∀ rule ∈ rules, rule.direction = .both
  left : rules.Pairwise fun first second => first.left.field ≠ second.left.field
  right : rules.Pairwise fun first second => first.right.field ≠ second.right.field
  typed : ∀ rule ∈ rules, rule.left.field = typeKey ∨ rule.right.field = typeKey →
    rule.left.field = typeKey ∧ rule.right.field = typeKey
      ∧ ∃ inner, rule.left.convert (.text typeName) = .ok (.text inner)
        ∧ rule.right.convert (.text inner) = .ok (.text typeName)
  plain : ∀ rule ∈ rules, rule.left.field ≠ typeKey →
    rule.left.conversions = [] ∧ rule.right.conversions = []

variable {rules : Ruleset} {rule : Rule} {typeName : String}

theorem Renames.invertible (renames : rules.Renames typeName) : rules.Invertible := by
  refine ⟨renames.both, renames.left, renames.right,
    fun rule mem => ⟨fun left => ?_, fun right => ?_⟩⟩
  · exact (renames.typed rule mem (.inl left)).2.1
  · exact (renames.typed rule mem (.inr right)).1

theorem Renames.undone (renames : rules.Renames typeName) (mem : rule ∈ rules) (fields : Fields) :
    Undone .forward ⟨typeName, fields⟩ rule := by
  intro v w found converted
  by_cases isType : rule.left.field = typeKey
  · obtain ⟨-, -, inner, there, back⟩ := renames.typed rule mem (.inl isType)
    have text : v = .text typeName := by
      change valueAt _ rule.left.field = some v at found
      rw [isType, valueAt_typeKey] at found
      exact (Option.some.inj found).symm
    subst text
    obtain rfl : .text inner = w := Except.ok.inj (there.symm.trans converted)
    exact back
  · obtain ⟨left, right⟩ := renames.plain rule mem isType
    obtain rfl : v = w := RuleSide.eq_of_plain left converted
    exact RuleSide.convert_of_plain right v

end RestService.Ruleset
