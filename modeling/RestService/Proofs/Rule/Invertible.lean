import RestService.Collection.Schema
import RestService.Proofs.Rule.Ruleset

set_option autoImplicit false

namespace RestService.Ruleset

/-- All rules go both ways, no two name the same field on one side, and the type name stays the type
name. -/
structure Invertible (rules : Ruleset) : Prop where
  both : ∀ rule ∈ rules, rule.direction = .both
  left : rules.Pairwise fun first second => first.left.field ≠ second.left.field
  right : rules.Pairwise fun first second => first.right.field ≠ second.right.field
  typed : ∀ rule ∈ rules, rule.left.field = typeKey ↔ rule.right.field = typeKey

/-- The other side of a rule undoes what the rule has made of a record. -/
def Undone (way : Way) (r : Resource) (rule : Rule) : Prop :=
  ∀ v w, valueAt r (rule.source way).field = some v → (rule.source way).convert v = .ok w →
    (rule.target way).convert w = .ok v

variable {rules : Ruleset} {rule : Rule} {way : Way}

theorem Invertible.goes (invertible : rules.Invertible) (way : Way) : Goes way rules := by
  intro rule mem
  have both := invertible.both rule mem
  cases way with
  | forward => rw [Rule.goes, both]; rfl
  | backward => rw [Rule.goes, both]; rfl

theorem Invertible.apart (invertible : rules.Invertible) (way : Way) : Apart way rules := by
  cases way with
  | forward => exact invertible.right
  | backward => exact invertible.left

theorem Invertible.typed_iff (invertible : rules.Invertible) (way : Way) (mem : rule ∈ rules) :
    (rule.source way).field = typeKey ↔ (rule.target way).field = typeKey := by
  cases way with
  | forward => exact invertible.typed rule mem
  | backward => exact (invertible.typed rule mem).symm

theorem output_of_source {r : Resource} (invertible : rules.Invertible) (mem : rule ∈ rules) :
    output rules way.back r (rule.source way).field = carried way.back r rule := by
  rw [← Rule.target_back]
  exact output_of_mem (invertible.apart way.back) mem

/-- A rule that writes the type name takes it from the type name. -/
theorem Invertible.typeName_of_mem (invertible : rules.Invertible) {r made : Resource}
    {leniency : Leniency} (makes : Makes rules way leniency r made) (mem : rule ∈ rules)
    (typed : (rule.target way).field = typeKey) :
    (rule.source way).convert (.text r.typeName) = .ok (.text made.typeName) := by
  have source : (rule.source way).field = typeKey := (invertible.typed_iff way mem).2 typed
  have found : valueAt r (rule.source way).field = some (.text r.typeName) := by
    rw [source, valueAt_typeKey]
  obtain ⟨w, converted, text⟩ := (makes.settled rule mem).present _ found
  obtain ⟨name, rfl⟩ := text typed
  have written : output rules way r typeKey = some (.text name) := by
    rw [← typed, output_of_mem (invertible.apart way) mem, carried_eq_some found converted]
  have same : made.typeName = name := by
    rw [makes.typeName, written]
    rfl
  rw [same]
  exact converted

theorem typeName_of_forall_ne {r made : Resource} {leniency : Leniency}
    (makes : Makes rules way leniency r made)
    (none : ∀ rule ∈ rules, (rule.target way).field ≠ typeKey) : made.typeName = r.typeName := by
  rw [makes.typeName, output_eq_none none]
  rfl

/-- What a rule about a field other than the type name needs to be taken back: the field that it has
written, perhaps changed since in `back`, goes over to what is wanted in `fields`. -/
structure TakenBack (way : Way) (r : Resource) (back fields : Fields) (rule : Rule) : Prop where
  absent : Dict.get? r.fields (rule.source way).field = none →
    Dict.get? back (rule.target way).field = none ∧ Dict.get? fields (rule.source way).field = none
  present : ∀ v w, Dict.get? r.fields (rule.source way).field = some v →
    (rule.source way).convert v = .ok w →
    ∃ x u, Dict.get? back (rule.target way).field = some x
      ∧ (rule.target way).convert x = .ok u ∧ Dict.get? fields (rule.source way).field = some u

variable {r made : Resource} {back fields : Fields}

/-- What a rule finds on the way back, where it once wrote. -/
theorem Invertible.back_cases (invertible : rules.Invertible) (makes : Makes rules way {} r made)
    (mem : rule ∈ rules)
    (typed : (rule.source way).field = typeKey → Undone way r rule)
    (taken : (rule.source way).field ≠ typeKey → TakenBack way r back fields rule) :
    ((rule.source way).field = typeKey ∧ (rule.target way).field = typeKey
      ∧ (rule.target way).convert (.text made.typeName) = .ok (.text r.typeName))
    ∨ ((rule.source way).field ≠ typeKey ∧ (rule.target way).field ≠ typeKey
      ∧ ((rule.mandatory = false ∧ Dict.get? back (rule.target way).field = none
          ∧ Dict.get? fields (rule.source way).field = none)
        ∨ ∃ x u, Dict.get? back (rule.target way).field = some x
          ∧ (rule.target way).convert x = .ok u
          ∧ Dict.get? fields (rule.source way).field = some u)) := by
  have iff := invertible.typed_iff way mem
  by_cases source : (rule.source way).field = typeKey
  · have target := iff.1 source
    have found : valueAt r (rule.source way).field = some (.text r.typeName) := by
      rw [source, valueAt_typeKey]
    exact .inl ⟨source, target,
      typed source _ _ found (invertible.typeName_of_mem makes mem target)⟩
  · have target : (rule.target way).field ≠ typeKey := fun same => source (iff.2 same)
    refine .inr ⟨source, target, ?_⟩
    have settled := makes.settled rule mem
    cases found : Dict.get? r.fields (rule.source way).field with
    | none =>
      have optional : rule.mandatory = false := by
        refine Bool.eq_false_iff.2 fun mandatory => ?_
        have lenient := settled.absent ((valueAt_of_ne source r).trans found) mandatory
        cases lenient
      obtain ⟨noBack, noField⟩ := (taken source).absent found
      exact .inl ⟨optional, noBack, noField⟩
    | some v =>
      obtain ⟨w, converted, -⟩ := settled.present v ((valueAt_of_ne source r).trans found)
      exact .inr ((taken source).present v w found converted)

theorem Invertible.settled_back (invertible : rules.Invertible) (makes : Makes rules way {} r made)
    (typed : ∀ rule ∈ rules, (rule.source way).field = typeKey → Undone way r rule)
    (taken : ∀ rule ∈ rules, (rule.source way).field ≠ typeKey → TakenBack way r back fields rule)
    (mem : rule ∈ rules) : Settled way.back {} ⟨made.typeName, back⟩ rule := by
  rcases invertible.back_cases makes mem (typed rule mem) (taken rule mem) with
    ⟨source, target, undone⟩ | ⟨source, target, ⟨optional, noBack, -⟩ | ⟨x, u, found, undone, -⟩⟩
  · refine ⟨fun v found => ?_, fun missing => ?_⟩
    · rw [Rule.source_back, target, valueAt_typeKey] at found
      rw [Rule.source_back, ← Option.some.inj found, undone]
      exact ⟨_, rfl, fun _ => ⟨_, rfl⟩⟩
    · rw [Rule.source_back, target, valueAt_typeKey] at missing
      cases missing
  · refine ⟨fun v found => ?_, fun _ mandatory => ?_⟩
    · rw [Rule.source_back, valueAt_of_ne target, noBack] at found
      cases found
    · rw [optional] at mandatory
      cases mandatory
  · refine ⟨fun v same => ?_, fun missing => ?_⟩
    · rw [Rule.source_back, valueAt_of_ne target, found] at same
      rw [Rule.source_back, Rule.target_back, ← Option.some.inj same, undone]
      exact ⟨u, rfl, fun isType => absurd isType source⟩
    · rw [Rule.source_back, valueAt_of_ne target, found] at missing
      cases missing

theorem Invertible.typeName_back (invertible : rules.Invertible)
    (makes : Makes rules way {} r made)
    (typed : ∀ rule ∈ rules, (rule.source way).field = typeKey → Undone way r rule) :
    r.typeName = ((output rules way.back ⟨made.typeName, back⟩ typeKey).bind Value.text?).getD
      made.typeName := by
  by_cases exists_rule : ∃ rule ∈ rules, (rule.source way).field = typeKey
  · obtain ⟨rule, mem, source⟩ := exists_rule
    have target := (invertible.typed_iff way mem).1 source
    have forth := invertible.typeName_of_mem makes mem target
    have found : valueAt r (rule.source way).field = some (.text r.typeName) := by
      rw [source, valueAt_typeKey]
    have undone := typed rule mem source _ _ found forth
    have there : valueAt ⟨made.typeName, back⟩ (rule.source way.back).field
        = some (.text made.typeName) := by
      rw [Rule.source_back, target, valueAt_typeKey]
    rw [← Rule.source_back] at undone
    rw [← source, output_of_source invertible mem, carried_eq_some there undone]
    rfl
  · have noSource : ∀ rule ∈ rules, (rule.target way.back).field ≠ typeKey := by
      intro rule mem same
      rw [Rule.target_back] at same
      exact exists_rule ⟨rule, mem, same⟩
    have noTarget : ∀ rule ∈ rules, (rule.target way).field ≠ typeKey := by
      intro rule mem same
      exact exists_rule ⟨rule, mem, (invertible.typed_iff way mem).2 same⟩
    rw [output_eq_none noSource, typeName_of_forall_ne makes noTarget]
    rfl

/-- What invertible rules have made of a record goes back to it, also if the fields that they have
written have been taken back one by one before. -/
theorem Invertible.apply_back (invertible : rules.Invertible)
    (applied : rules.apply way {} r = .ok made)
    (typed : ∀ rule ∈ rules, (rule.source way).field = typeKey → Undone way r rule)
    (taken : ∀ rule ∈ rules, (rule.source way).field ≠ typeKey → TakenBack way r back fields rule)
    (backKeys : Dict.keys back = Dict.keys made.fields)
    (fieldKeys : Dict.keys fields = Dict.keys r.fields) (sorted : Dict.Sorted fields)
    (untyped : typeKey ∉ Dict.keys fields) :
    rules.apply way.back {} ⟨made.typeName, back⟩ = .ok ⟨r.typeName, fields⟩ := by
  have makes := makes_of_apply (invertible.goes way) (invertible.apart way) applied
  rw [apply_eq_ok_iff (invertible.goes way.back) (invertible.apart way.back)]
  refine ⟨fun rule mem => invertible.settled_back makes typed taken mem, .inr fun key mem => ?_,
    invertible.typeName_back (r := r) makes typed, fun key => ?_, sorted⟩
  · -- what stands in the record was written by a rule
    obtain ⟨w, found⟩ := Dict.get?_isSome_of_mem_keys (backKeys ▸ mem)
    rw [makes.fields] at found
    split at found
    · cases found
    · obtain ⟨rule, mem, target, -⟩ := exists_of_output found
      exact ⟨rule, mem, by rw [Rule.source_back, target]⟩
  · by_cases isType : key = typeKey
    · rw [if_pos isType, isType]
      exact Dict.get?_eq_none_iff.2 untyped
    · rw [if_neg isType]
      by_cases exists_rule : ∃ rule ∈ rules, (rule.source way).field = key
      · obtain ⟨rule, mem, source⟩ := exists_rule
        rw [← source, output_of_source invertible mem, carried, Rule.source_back]
        rcases invertible.back_cases makes mem (typed rule mem) (taken rule mem) with
          ⟨same, -, -⟩ | ⟨-, target, ⟨-, noBack, noField⟩ | ⟨x, u, found, undone, field⟩⟩
        · exact absurd (source.symm.trans same) isType
        · rw [valueAt_of_ne target, noBack, noField]
          rfl
        · rw [valueAt_of_ne target, found, field, Option.bind_some, undone]
          rfl
      · have noRule : ∀ rule ∈ rules, (rule.target way.back).field ≠ key := by
          intro rule mem same
          rw [Rule.target_back] at same
          exact exists_rule ⟨rule, mem, same⟩
        rw [output_eq_none noRule, Dict.get?_eq_none_iff, fieldKeys]
        intro mem
        rcases makes.known with lenient | known
        · cases lenient
        · exact exists_rule (known key mem)

/-- The type that the rules give to records of a type, if they are applied the given way. -/
def typeAfter (rules : Ruleset) (way : Way) (typeName : String) : String :=
  if rules.isEmpty then typeName
  else match rules.apply way ⟨true, true⟩ ⟨typeName, []⟩ with
    | .ok r => r.typeName
    | .error _ => typeName

theorem typeAfter_forward (rules : Ruleset) (typeName : String) :
    rules.typeAfter .forward typeName = rules.internalType typeName := rfl

/-- A record without fields gets the same type as any other, if types are made of types. -/
theorem TypeFromType.typeAfter_of_apply (fromType : rules.TypeFromType way) (full : rules ≠ [])
    (applied : rules.apply way {} r = .ok made) :
    rules.typeAfter way r.typeName = made.typeName := by
  obtain ⟨probe, probed, same⟩ := fromType.exists_probe applied
  rw [typeAfter, if_neg (by simpa using full), probed]
  exact same

theorem Invertible.typeFromType (invertible : rules.Invertible) (way : Way) :
    rules.TypeFromType way := fun _ mem _ => (invertible.typed_iff way mem).2

end RestService.Ruleset
