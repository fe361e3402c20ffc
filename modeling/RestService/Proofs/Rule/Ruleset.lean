import RestService.Proofs.Dict
import RestService.Proofs.Rule.Conversion

set_option autoImplicit false

namespace RestService

def Way.back : Way → Way
  | .forward => .backward
  | .backward => .forward

theorem Rule.source_back (way : Way) (rule : Rule) : rule.source way.back = rule.target way := by
  cases way <;> rfl

theorem Rule.target_back (way : Way) (rule : Rule) : rule.target way.back = rule.source way := by
  cases way <;> rfl

namespace Ruleset

variable {rules : Ruleset} {way : Way} {leniency : Leniency} {r : Resource} {rule : Rule}
  {d draft : Draft}

theorem valueAt_typeKey (r : Resource) : valueAt r typeKey = some (.text r.typeName) := if_pos rfl

theorem valueAt_of_ne {field : String} (ne : field ≠ typeKey) (r : Resource) :
    valueAt r field = Dict.get? r.fields field := if_neg ne

/-- What one rule does to a draft. -/
inductive Stepped (way : Way) (leniency : Leniency) (r : Resource) (rule : Rule) (d : Draft) :
    Draft → Prop
  | absent (missing : valueAt r (rule.source way).field = none)
      (allowed : rule.mandatory = true → leniency.ignoreMissing = true) :
      Stepped way leniency r rule d d
  | typed {v : Value} {name : String} (found : valueAt r (rule.source way).field = some v)
      (converted : (rule.source way).convert v = .ok (.text name))
      (target : (rule.target way).field = typeKey) :
      Stepped way leniency r rule d { d with typeName? := some name }
  | written {v w : Value} (found : valueAt r (rule.source way).field = some v)
      (converted : (rule.source way).convert v = .ok w)
      (target : (rule.target way).field ≠ typeKey) :
      Stepped way leniency r rule d
        { d with fields := Dict.insert d.fields (rule.target way).field w }

theorem stepped_of_step (goes : rule.goes way = true)
    (taken : step way leniency r d rule = .ok draft) : Stepped way leniency r rule d draft := by
  unfold step at taken
  simp only [if_pos goes] at taken
  split at taken
  · rename_i missing
    split at taken
    · cases taken
    · rename_i allowed
      cases taken
      refine .absent missing fun mandatory => ?_
      simpa [mandatory] using allowed
  · rename_i v found
    split at taken
    · cases taken
    · rename_i w converted
      unfold Draft.write at taken
      split at taken
      · rename_i target
        split at taken
        · cases taken
          exact .typed found converted target
        · cases taken
      · rename_i target
        cases taken
        exact .written found converted target

theorem step_of_stepped (goes : rule.goes way = true)
    (stepped : Stepped way leniency r rule d draft) :
    step way leniency r d rule = .ok draft := by
  unfold step
  simp only [if_pos goes]
  cases stepped with
  | absent missing allowed =>
    rw [missing]
    simp only
    rw [if_neg]
    simpa using allowed
  | typed found converted target =>
    rw [found]
    simp only [converted]
    unfold Draft.write
    rw [if_pos target]
  | written found converted target =>
    rw [found]
    simp only [converted]
    unfold Draft.write
    rw [if_neg target]

/-- What a rule makes of a record, if the record has what it reads. -/
def carried (way : Way) (r : Resource) (rule : Rule) : Option Value :=
  (valueAt r (rule.source way).field).bind fun v => ((rule.source way).convert v).toOption

theorem carried_eq_some {v w : Value} (found : valueAt r (rule.source way).field = some v)
    (converted : (rule.source way).convert v = .ok w) : carried way r rule = some w := by
  rw [carried, found, Option.bind_some, converted]
  rfl

theorem exists_of_carried {w : Value} (gave : carried way r rule = some w) :
    ∃ v, valueAt r (rule.source way).field = some v ∧ (rule.source way).convert v = .ok w := by
  obtain ⟨v, found, converted⟩ := Option.bind_eq_some_iff.1 gave
  exact ⟨v, found, Result.toOption_eq_some.1 converted⟩

theorem Stepped.sorted (stepped : Stepped way leniency r rule d draft)
    (before : Dict.Sorted d.fields) : Dict.Sorted draft.fields := by
  cases stepped with
  | absent missing allowed => exact before
  | typed found converted target => exact before
  | written found converted target => exact Dict.sorted_insert before _ _

/-- What a rule writes to `!type` becomes the type of a record, never a field. -/
theorem Stepped.not_mem_keys (stepped : Stepped way leniency r rule d draft)
    (before : typeKey ∉ Dict.keys d.fields) : typeKey ∉ Dict.keys draft.fields := by
  cases stepped with
  | absent missing allowed => exact before
  | typed found converted target => exact before
  | written found converted target => exact Dict.not_mem_keys_insert before (Ne.symm target) _

/-- A rule that does not go leaves a draft alone. -/
theorem step_of_not_goes (stays : rule.goes way = false) : step way leniency r d rule = .ok d := by
  rw [step, stays]
  rfl

theorem step_cases (taken : step way leniency r d rule = .ok draft) :
    rule.goes way = false ∧ draft = d
      ∨ rule.goes way = true ∧ Stepped way leniency r rule d draft := by
  cases goes : rule.goes way with
  | true => exact .inr ⟨rfl, stepped_of_step goes taken⟩
  | false =>
    rw [step_of_not_goes goes] at taken
    exact .inl ⟨rfl, (Except.ok.inj taken).symm⟩

/-- What every rule that goes keeps of a draft, a run of the rules keeps. -/
theorem foldlM_keeps {holds : Draft → Prop}
    (kept : ∀ rule ∈ rules, rule.goes way = true → ∀ d next,
      Stepped way leniency r rule d next → holds d → holds next)
    (ran : rules.foldlM (step way leniency r) d = .ok draft) (begins : holds d) : holds draft := by
  refine Result.foldlM_invariant begins (fun rule mem d next taken here => ?_) ran
  rcases step_cases taken with ⟨-, rfl⟩ | ⟨goes, stepped⟩
  · exact here
  · exact kept rule mem goes d next stepped here

theorem knows_iff {field : String} :
    rules.knows way field = true ↔ ∃ rule ∈ rules, (rule.source way).field = field := by
  simp [knows]

/-- Every field of a record is named on the side that is read, be it by a rule that does not go,
unless other fields are let pass. -/
def Admits (rules : Ruleset) (way : Way) (leniency : Leniency) (r : Resource) : Prop :=
  leniency.ignoreUnknown = true
    ∨ ∀ key ∈ Dict.keys r.fields, ∃ rule ∈ rules, (rule.source way).field = key

theorem admits_iff : rules.Admits way leniency r
    ↔ (if leniency.ignoreUnknown then none
      else (Dict.keys r.fields).find? fun key => !rules.knows way key) = none := by
  unfold Admits
  cases leniency.ignoreUnknown with
  | true => simp
  | false => simp [knows_iff]

/-- What becomes of a record is a draft that all rules have gone through. -/
theorem apply_eq_ok_iff_exists_draft {made : Resource} : rules.apply way leniency r = .ok made
    ↔ ∃ draft, rules.foldlM (step way leniency r) ({} : Draft) = .ok draft
      ∧ rules.Admits way leniency r
      ∧ made = ⟨draft.typeName?.getD r.typeName, draft.fields⟩ := by
  rw [admits_iff, apply]
  cases rules.foldlM (step way leniency r) ({} : Draft) with
  | error error => simp
  | ok draft =>
    simp only
    split
    · rename_i key unknown
      simp [unknown]
    · rename_i unknown
      simp only [unknown, Except.ok.injEq, true_and, exists_eq_left']
      exact eq_comm

/-- What a draft has at the start and every rule that goes keeps, the draft of the record that the
rules make has as well. -/
theorem apply_invariant {holds : Draft → Prop} {made : Resource}
    (kept : ∀ rule ∈ rules, rule.goes way = true → ∀ d next,
      Stepped way leniency r rule d next → holds d → holds next) (begins : holds {})
    (applied : rules.apply way leniency r = .ok made) :
    ∃ draft, holds draft ∧ made = ⟨draft.typeName?.getD r.typeName, draft.fields⟩ := by
  obtain ⟨draft, ran, -, same⟩ := apply_eq_ok_iff_exists_draft.1 applied
  exact ⟨draft, foldlM_keeps kept ran begins, same⟩

/-- The values of a record that rules make are scalars, or they are in the record already: a
conversion gives a scalar, and a value without one is only moved. -/
theorem holds_of_apply {holds : Value → Prop} {made : Resource}
    (scalar : ∀ v, v.isScalar = true → holds v) (inner : ∀ entry ∈ r.fields, holds entry.2)
    (applied : rules.apply way leniency r = .ok made) : ∀ entry ∈ made.fields, holds entry.2 := by
  have moved {s : RuleSide} {v w : Value} (found : valueAt r s.field = some v)
      (converted : s.convert v = .ok w) : holds w := by
    cases simple : v.isScalar with
    | true => exact scalar w (RuleSide.isScalar_of_convert simple converted)
    | false =>
      have same : v = w :=
        RuleSide.eq_of_plain (RuleSide.conversions_eq_nil simple converted) converted
      rw [← same]
      unfold valueAt at found
      split at found
      · rw [← Option.some.inj found]
        exact scalar _ rfl
      · exact inner _ (Dict.mem_of_get? found)
  have kept (rule : Rule) (d next : Draft) (stepped : Stepped way leniency r rule d next)
      (here : ∀ entry ∈ d.fields, holds entry.2) : ∀ entry ∈ next.fields, holds entry.2 := by
    cases stepped with
    | absent missing allowed => exact here
    | typed found converted target => exact here
    | written found converted target =>
      intro entry mem
      rcases Dict.mem_insert mem with rfl | old
      · exact moved found converted
      · exact here entry old
  obtain ⟨draft, all, rfl⟩ :=
    apply_invariant (fun rule _ _ => kept rule) (List.forall_mem_nil _) applied
  exact all

/-- A rule has what it needs of a record. -/
structure Settled (way : Way) (leniency : Leniency) (r : Resource) (rule : Rule) : Prop where
  present : ∀ v, valueAt r (rule.source way).field = some v →
    ∃ w, (rule.source way).convert v = .ok w
      ∧ ((rule.target way).field = typeKey → ∃ name, w = .text name)
  absent : valueAt r (rule.source way).field = none → rule.mandatory = true →
    leniency.ignoreMissing = true

theorem Stepped.settled (stepped : Stepped way leniency r rule d draft) :
    Settled way leniency r rule := by
  cases stepped with
  | absent missing allowed =>
    exact ⟨fun v found => absurd (missing.symm.trans found) (by simp), fun _ => allowed⟩
  | @typed v name found converted target =>
    refine ⟨fun u same => ?_, fun missing => absurd (found.symm.trans missing) (by simp)⟩
    obtain rfl : v = u := Option.some.inj (found.symm.trans same)
    exact ⟨_, converted, fun _ => ⟨name, rfl⟩⟩
  | @written v w found converted target =>
    refine ⟨fun u same => ?_, fun missing => absurd (found.symm.trans missing) (by simp)⟩
    obtain rfl : v = u := Option.some.inj (found.symm.trans same)
    exact ⟨w, converted, fun typed => absurd typed target⟩

theorem Settled.exists_step (settled : Settled way leniency r rule) (d : Draft) :
    ∃ draft, Stepped way leniency r rule d draft := by
  cases found : valueAt r (rule.source way).field with
  | none => exact ⟨d, .absent found (settled.absent found)⟩
  | some v =>
    obtain ⟨w, converted, typed⟩ := settled.present v found
    by_cases target : (rule.target way).field = typeKey
    · obtain ⟨name, rfl⟩ := typed target
      exact ⟨_, .typed found converted target⟩
    · exact ⟨_, .written found converted target⟩

theorem foldlM_cons_eq_ok {first : Rule} {rest : Ruleset}
    (ran : (first :: rest).foldlM (step way leniency r) d = .ok draft) :
    ∃ next, step way leniency r d first = .ok next
      ∧ rest.foldlM (step way leniency r) next = .ok draft := by
  rw [List.foldlM_cons] at ran
  exact Result.bind_eq_ok.1 ran

/-- Rules that have gone through had what they needed. -/
theorem settled_of_foldlM (ran : rules.foldlM (step way leniency r) d = .ok draft) :
    ∀ rule ∈ rules, rule.goes way = true → Settled way leniency r rule := by
  induction rules generalizing d with
  | nil => exact List.forall_mem_nil _
  | cons first rest ih =>
    obtain ⟨next, here, later⟩ := foldlM_cons_eq_ok ran
    refine List.forall_mem_cons.2 ⟨fun goes => ?_, ih later⟩
    exact (stepped_of_step goes here).settled

/-- Rules that have what they need go through. -/
theorem foldlM_of_settled
    (settled : ∀ rule ∈ rules, rule.goes way = true → Settled way leniency r rule) (d : Draft) :
    ∃ draft, rules.foldlM (step way leniency r) d = .ok draft := by
  induction rules generalizing d with
  | nil => exact ⟨d, rfl⟩
  | cons first rest ih =>
    obtain ⟨here, later⟩ := List.forall_mem_cons.1 settled
    have taken : ∃ next, step way leniency r d first = .ok next := by
      cases goes : first.goes way with
      | true =>
        obtain ⟨next, stepped⟩ := (here goes).exists_step d
        exact ⟨next, step_of_stepped goes stepped⟩
      | false => exact ⟨d, step_of_not_goes goes⟩
    obtain ⟨next, taken⟩ := taken
    obtain ⟨draft, ran⟩ := ih later next
    refine ⟨draft, ?_⟩
    rw [List.foldlM_cons, taken]
    exact ran

/-- Whether a rule that goes has what it reads, and writes it to the field `key`. -/
def writes (way : Way) (r : Resource) (key : String) (rule : Rule) : Bool :=
  rule.goes way && (rule.target way).field == key && (valueAt r (rule.source way).field).isSome

/-- The last of the rules that write the field `key` of what is made of `r`. -/
def lastWriter (rules : Ruleset) (way : Way) (r : Resource) (key : String) : Option Rule :=
  (rules.filter (writes way r key)).getLast?

theorem writes_iff {key : String} : writes way r key rule = true
    ↔ rule.goes way = true ∧ (rule.target way).field = key
      ∧ ∃ v, valueAt r (rule.source way).field = some v := by
  simp only [writes, Bool.and_eq_true, beq_iff_eq, Option.isSome_iff_exists, and_assoc]

theorem lastWriter_cons (rule : Rule) (rules : Ruleset) (way : Way) (r : Resource) (key : String) :
    lastWriter (rule :: rules) way r key
      = (lastWriter rules way r key).or (if writes way r key rule then some rule else none) := by
  unfold lastWriter
  cases written : writes way r key rule with
  | true =>
    rw [List.filter_cons_of_pos written, if_pos rfl, List.getLast?_cons]
    cases (rules.filter (writes way r key)).getLast? <;> rfl
  | false =>
    rw [List.filter_cons_of_neg (by simp [written]), if_neg (by decide), Option.or_none]

theorem mem_of_lastWriter {key : String} (last : lastWriter rules way r key = some rule) :
    rule ∈ rules ∧ writes way r key rule = true :=
  List.mem_filter.1 (List.mem_of_getLast? last)

/-- What one rule does to a field of a draft. -/
theorem get?_of_step (taken : step way leniency r d rule = .ok draft) {key : String}
    (ne : key ≠ typeKey) : Dict.get? draft.fields key
      = if writes way r key rule then carried way r rule else Dict.get? d.fields key := by
  rcases step_cases taken with ⟨stays, rfl⟩ | ⟨goes, stepped⟩
  · simp [writes, stays]
  · cases stepped with
    | absent missing allowed => simp [writes, missing]
    | typed found converted target => simp [writes, target, Ne.symm ne]
    | written found converted target =>
      rw [Dict.get?_insert, carried_eq_some found converted]
      by_cases same : key = (rule.target way).field
      · simp [writes, goes, found, same]
      · simp [writes, same, Ne.symm same]

/-- What one rule does to the type name of a draft. -/
theorem typeName?_of_step (taken : step way leniency r d rule = .ok draft) : draft.typeName?
    = if writes way r typeKey rule then (carried way r rule).bind Value.text? else d.typeName? := by
  rcases step_cases taken with ⟨stays, rfl⟩ | ⟨goes, stepped⟩
  · simp [writes, stays]
  · cases stepped with
    | absent missing allowed => simp [writes, missing]
    | typed found converted target =>
      rw [carried_eq_some found converted]
      simp [writes, goes, found, target, Value.text?]
    | written found converted target => simp [writes, target]

/-- What the rules do to a field of a draft: the last one that writes it counts. -/
theorem get?_foldlM (ran : rules.foldlM (step way leniency r) d = .ok draft) {key : String}
    (ne : key ≠ typeKey) : Dict.get? draft.fields key
      = (lastWriter rules way r key).elim (Dict.get? d.fields key) (carried way r) := by
  induction rules generalizing d with
  | nil =>
    cases ran
    rfl
  | cons first rest ih =>
    obtain ⟨next, here, later⟩ := foldlM_cons_eq_ok ran
    rw [ih later, get?_of_step here ne, lastWriter_cons]
    cases lastWriter rest way r key with
    | some rule => rfl
    | none => split <;> rfl

theorem typeName?_foldlM (ran : rules.foldlM (step way leniency r) d = .ok draft) :
    draft.typeName? = (lastWriter rules way r typeKey).elim d.typeName?
      fun rule => (carried way r rule).bind Value.text? := by
  induction rules generalizing d with
  | nil =>
    cases ran
    rfl
  | cons first rest ih =>
    obtain ⟨next, here, later⟩ := foldlM_cons_eq_ok ran
    rw [ih later, typeName?_of_step here, lastWriter_cons]
    cases lastWriter rest way r typeKey with
    | some rule => rfl
    | none => split <;> rfl

theorem exists_apply
    (settled : ∀ rule ∈ rules, rule.goes way = true → Settled way leniency r rule)
    (admitted : rules.Admits way leniency r) : ∃ made, rules.apply way leniency r = .ok made := by
  obtain ⟨draft, ran⟩ := foldlM_of_settled settled {}
  exact ⟨_, apply_eq_ok_iff_exists_draft.2 ⟨draft, ran, admitted, rfl⟩⟩

theorem exists_carried_of_lastWriter {key : String}
    (settled : ∀ rule ∈ rules, rule.goes way = true → Settled way leniency r rule)
    (last : lastWriter rules way r key = some rule) : ∃ w, carried way r rule = some w
      ∧ (key = typeKey → ∃ name, w = .text name) := by
  obtain ⟨mem, written⟩ := mem_of_lastWriter last
  obtain ⟨goes, rfl, v, found⟩ := writes_iff.1 written
  obtain ⟨w, converted, text⟩ := (settled rule mem goes).present v found
  exact ⟨w, carried_eq_some found converted, text⟩

/-- What the rules write, field by field: of several rules that write to one place, the last one
counts. -/
structure Written (rules : Ruleset) (way : Way) (r made : Resource) : Prop where
  retyped : ∀ rule, lastWriter rules way r typeKey = some rule →
    carried way r rule = some (.text made.typeName)
  typeKept : lastWriter rules way r typeKey = none → made.typeName = r.typeName
  field : ∀ key ≠ typeKey, ∀ rule, lastWriter rules way r key = some rule →
    ∃ v, carried way r rule = some v ∧ Dict.get? made.fields key = some v
  noField : ∀ key, key = typeKey ∨ lastWriter rules way r key = none →
    Dict.get? made.fields key = none
  sorted : Dict.Sorted made.fields

theorem written_of_apply {made : Resource} (applied : rules.apply way leniency r = .ok made) :
    Written rules way r made := by
  obtain ⟨draft, ran, -, rfl⟩ := apply_eq_ok_iff_exists_draft.1 applied
  have settled := settled_of_foldlM ran
  have free : typeKey ∉ Dict.keys draft.fields :=
    foldlM_keeps (fun _ _ _ _ _ stepped => stepped.not_mem_keys) ran List.not_mem_nil
  refine ⟨fun rule last => ?_, fun none => ?_, fun key ne rule last => ?_, fun key none => ?_,
    foldlM_keeps (fun _ _ _ _ _ stepped => stepped.sorted) ran List.Pairwise.nil⟩
  · obtain ⟨w, made, text⟩ := exists_carried_of_lastWriter settled last
    obtain ⟨name, rfl⟩ := text rfl
    rw [made, typeName?_foldlM ran, last, Option.elim_some, made]
    rfl
  · rw [typeName?_foldlM ran, none]
    rfl
  · obtain ⟨w, made, -⟩ := exists_carried_of_lastWriter settled last
    exact ⟨w, made, by rw [get?_foldlM ran ne, last, Option.elim_some, made]⟩
  · by_cases typed : key = typeKey
    · rw [typed, Dict.get?_eq_none_iff.2 free]
    · rw [get?_foldlM ran typed, none.resolve_left typed]
      rfl

/-- What the rules write to the type of a record, they read from the type of a record. -/
def TypeFromType (way : Way) (rules : Ruleset) : Prop :=
  ∀ rule ∈ rules, rule.goes way = true → (rule.target way).field = typeKey →
    (rule.source way).field = typeKey

instance (way : Way) (rules : Ruleset) : Decidable (rules.TypeFromType way) :=
  inferInstanceAs (Decidable (∀ rule ∈ rules, _))

theorem TypeFromType.carried_eq (fromType : rules.TypeFromType way) {other : Resource}
    (same : other.typeName = r.typeName) (mem : rule ∈ rules)
    (written : writes way r typeKey rule = true) : carried way other rule = carried way r rule := by
  obtain ⟨goes, target, -⟩ := writes_iff.1 written
  rw [carried, carried, fromType rule mem goes target, valueAt_typeKey, valueAt_typeKey, same]

theorem TypeFromType.lastWriter_eq (fromType : rules.TypeFromType way) {other : Resource}
    (same : other.typeName = r.typeName) :
    lastWriter rules way other typeKey = lastWriter rules way r typeKey := by
  have alike : ∀ rule ∈ rules, writes way other typeKey rule = writes way r typeKey rule := by
    intro rule mem
    rw [Bool.eq_iff_iff, writes_iff, writes_iff]
    refine and_congr_right fun goes => and_congr_right fun target => ?_
    rw [fromType rule mem goes target, valueAt_typeKey, valueAt_typeKey, same]
  rw [lastWriter, List.filter_congr alike, lastWriter]

/-- Then records of one type become records of one type. -/
theorem TypeFromType.typeName_eq (fromType : rules.TypeFromType way) {other made also : Resource}
    (same : other.typeName = r.typeName) (writes : Written rules way r made)
    (others : Written rules way other also) : also.typeName = made.typeName := by
  have lastSame := fromType.lastWriter_eq same
  cases last : lastWriter rules way r typeKey with
  | none =>
    rw [writes.typeKept last, others.typeKept (lastSame.trans last), same]
  | some rule =>
    obtain ⟨mem, written⟩ := mem_of_lastWriter last
    have carries := fromType.carried_eq same mem written
    rw [writes.retyped rule last, others.retyped rule (lastSame.trans last)] at carries
    exact Value.text.inj (Option.some.inj carries)

/-- And a record without fields goes through whenever another one of its type does. -/
theorem TypeFromType.exists_probe (fromType : rules.TypeFromType way) {made : Resource}
    (applied : rules.apply way leniency r = .ok made) :
    ∃ probe, rules.apply way ⟨true, true⟩ ⟨r.typeName, []⟩ = .ok probe
      ∧ probe.typeName = made.typeName := by
  obtain ⟨draft, ran, -, -⟩ := apply_eq_ok_iff_exists_draft.1 applied
  have settled (rule : Rule) (mem : rule ∈ rules) (goes : rule.goes way = true) :
      Settled way ⟨true, true⟩ ⟨r.typeName, []⟩ rule := by
    refine ⟨fun v found => ?_, fun _ _ => rfl⟩
    by_cases source : (rule.source way).field = typeKey
    · refine (settled_of_foldlM ran rule mem goes).present v ?_
      rw [source, valueAt_typeKey] at found ⊢
      exact found
    · rw [valueAt_of_ne source] at found
      cases found
  obtain ⟨probe, probed⟩ := exists_apply settled (.inl rfl)
  have same : (⟨r.typeName, []⟩ : Resource).typeName = r.typeName := rfl
  exact ⟨probe, probed,
    fromType.typeName_eq same (written_of_apply applied) (written_of_apply probed)⟩

/-- What the rules write to a field of the record that they make of `r`. -/
def output (rules : Ruleset) (way : Way) (r : Resource) (key : String) : Option Value :=
  (rules.find? fun rule => (rule.target way).field == key).bind (carried way r)

theorem output_cons (rule : Rule) (rules : Ruleset) (way : Way) (r : Resource) (key : String) :
    output (rule :: rules) way r key
      = if (rule.target way).field = key then carried way r rule else output rules way r key := by
  unfold output
  by_cases same : (rule.target way).field = key
  · rw [List.find?_cons_of_pos (by simpa using same), if_pos same]
    rfl
  · rw [List.find?_cons_of_neg (by simpa using same), if_neg same]

theorem output_eq_none {key : String} (other : ∀ rule ∈ rules, (rule.target way).field ≠ key) :
    output rules way r key = none := by
  induction rules with
  | nil => rfl
  | cons first rest ih =>
    rw [output_cons, if_neg (other first List.mem_cons_self)]
    exact ih fun rule mem => other rule (List.mem_cons_of_mem first mem)

theorem exists_of_output {key : String} {w : Value} (gave : output rules way r key = some w) :
    ∃ rule ∈ rules, (rule.target way).field = key ∧ carried way r rule = some w := by
  obtain ⟨rule, found, written⟩ := Option.bind_eq_some_iff.1 gave
  have same := List.find?_some found
  exact ⟨rule, List.mem_of_find?_eq_some found, by simpa using same, written⟩

/-- No two rules write the same field. -/
def Apart (way : Way) (rules : Ruleset) : Prop :=
  rules.Pairwise fun first second => (first.target way).field ≠ (second.target way).field

theorem output_of_mem (apart : Apart way rules) (mem : rule ∈ rules) :
    output rules way r (rule.target way).field = carried way r rule := by
  induction rules with
  | nil => exact absurd mem List.not_mem_nil
  | cons first rest ih =>
    obtain ⟨ne, more⟩ := List.pairwise_cons.1 apart
    rw [output_cons]
    rcases List.mem_cons.1 mem with rfl | later
    · rw [if_pos rfl]
    · rw [if_neg (ne rule later), ih more later]

def Goes (way : Way) (rules : Ruleset) : Prop := ∀ rule ∈ rules, rule.goes way = true

/-- Where no two rules write the same field, the only one that writes it is the last one. -/
theorem output_eq_lastWriter (goes : Goes way rules) (apart : Apart way rules) {key : String} :
    output rules way r key = (lastWriter rules way r key).bind (carried way r) := by
  cases last : lastWriter rules way r key with
  | some rule =>
    obtain ⟨mem, written⟩ := mem_of_lastWriter last
    obtain ⟨-, rfl, -⟩ := writes_iff.1 written
    exact output_of_mem apart mem
  | none =>
    cases gave : output rules way r key with
    | none => rfl
    | some w =>
      obtain ⟨rule, mem, target, made⟩ := exists_of_output gave
      obtain ⟨v, found, -⟩ := exists_of_carried made
      have written : writes way r key rule = true :=
        writes_iff.2 ⟨goes rule mem, target, v, found⟩
      exact absurd (List.getLast?_eq_none_iff.1 last)
        (List.ne_nil_of_mem (List.mem_filter.2 ⟨mem, written⟩))

/-- A record that the rules make of another one, told field by field. -/
structure Makes (rules : Ruleset) (way : Way) (leniency : Leniency) (r made : Resource) :
    Prop where
  settled : ∀ rule ∈ rules, Settled way leniency r rule
  known : leniency.ignoreUnknown = true
    ∨ ∀ key ∈ Dict.keys r.fields, ∃ rule ∈ rules, (rule.source way).field = key
  typeName : made.typeName = ((output rules way r typeKey).bind Value.text?).getD r.typeName
  fields : ∀ key, Dict.get? made.fields key
    = if key = typeKey then none else output rules way r key
  sorted : Dict.Sorted made.fields

theorem Makes.unique {made other : Resource} (makes : Makes rules way leniency r made)
    (also : Makes rules way leniency r other) : made = other := by
  obtain ⟨typeName, fields⟩ := made
  obtain ⟨otherName, otherFields⟩ := other
  have sameName : typeName = otherName := makes.typeName.trans also.typeName.symm
  have sameFields : fields = otherFields :=
    Dict.ext makes.sorted also.sorted fun key => (makes.fields key).trans (also.fields key).symm
  rw [sameName, sameFields]

theorem makes_of_apply (goes : Goes way rules) (apart : Apart way rules) {made : Resource}
    (applied : rules.apply way leniency r = .ok made) : Makes rules way leniency r made := by
  obtain ⟨draft, ran, admitted, -⟩ := apply_eq_ok_iff_exists_draft.1 applied
  have written := written_of_apply applied
  refine ⟨fun rule mem => settled_of_foldlM ran rule mem (goes rule mem), admitted, ?_,
    fun key => ?_, written.sorted⟩
  · rw [output_eq_lastWriter goes apart]
    cases last : lastWriter rules way r typeKey with
    | none => exact written.typeKept last
    | some rule =>
      rw [Option.bind_some, written.retyped rule last]
      rfl
  · by_cases typed : key = typeKey
    · rw [if_pos typed, written.noField key (.inl typed)]
    · rw [if_neg typed, output_eq_lastWriter goes apart]
      cases last : lastWriter rules way r key with
      | none => exact written.noField key (.inr last)
      | some rule =>
        obtain ⟨v, carries, found⟩ := written.field key typed rule last
        rw [found, Option.bind_some, carries]

/-- The rules make one record of another exactly if it is the one that they write field by field. -/
theorem apply_eq_ok_iff (goes : Goes way rules) (apart : Apart way rules) {made : Resource} :
    rules.apply way leniency r = .ok made ↔ Makes rules way leniency r made := by
  constructor
  · exact makes_of_apply goes apart
  · intro makes
    obtain ⟨other, applied⟩ := exists_apply (fun rule mem _ => makes.settled rule mem) makes.known
    rw [applied, (makes_of_apply goes apart applied).unique makes]

end Ruleset

end RestService
