import RestService.Json.Value
import RestService.Proofs.Dict
import RestService.Proofs.Result

set_option autoImplicit false

namespace RestService.JsonTree

theorem ofItems_eq_ok {items : List Value} {trees : List JsonTree} :
    ofItems items = .ok trees
      ↔ List.Forall₂ (fun v tree => ofValue v = .ok tree) items trees := by
  have steps : ofItems items = items.mapM ofValue := by
    induction items with
    | nil => rfl
    | cons v items ih => rw [ofItems, List.mapM_cons, ih]
  rw [steps, Result.mapM_eq_ok]

theorem exists_ofItems_iff {items : List Value} : (∃ trees, ofItems items = .ok trees)
    ↔ ∀ item ∈ items, ∃ tree, ofValue item = .ok tree :=
  (exists_congr fun _ => ofItems_eq_ok).trans Result.exists_forall₂_iff

theorem itemValues_eq_ok {trees : List JsonTree} {items : List Value} :
    itemValues trees = .ok items
      ↔ List.Forall₂ (fun tree v => toValue tree = .ok v) trees items := by
  have steps : itemValues trees = trees.mapM toValue := by
    induction trees with
    | nil => rfl
    | cons tree trees ih => rw [itemValues, List.mapM_cons, ih]
  rw [steps, Result.mapM_eq_ok]

theorem exists_itemValues_iff {trees : List JsonTree} : (∃ items, itemValues trees = .ok items)
    ↔ ∀ tree ∈ trees, ∃ v, toValue tree = .ok v :=
  (exists_congr fun _ => itemValues_eq_ok).trans Result.exists_forall₂_iff

/-- Fields become members of the same names. -/
theorem ofFields_eq_ok {fields : Fields} {members : List (String × JsonTree)} :
    ofFields fields = .ok members
      ↔ Dict.Alike (fun v tree => ofValue v = .ok tree) fields members := by
  unfold Dict.Alike
  induction fields generalizing members with
  | nil =>
    rw [List.forall₂_nil_left_iff, ofFields]
    exact ⟨fun same => (Except.ok.inj same).symm, fun same => same ▸ rfl⟩
  | cons entry fields ih =>
    obtain ⟨name, v⟩ := entry
    rw [ofFields, List.forall₂_cons_left_iff]
    constructor
    · intro made
      obtain ⟨tree, here, more⟩ := Result.bind_eq_ok.1 made
      obtain ⟨rest, later, whole⟩ := Result.bind_eq_ok.1 more
      exact ⟨(name, tree), rest, ⟨rfl, here⟩, ih.1 later, (Except.ok.inj whole).symm⟩
    · rintro ⟨⟨_, tree⟩, rest, ⟨rfl, here⟩, later, rfl⟩
      rw [here, ih.2 later]
      rfl

theorem exists_ofFields_iff {fields : Fields} : (∃ members, ofFields fields = .ok members)
    ↔ ∀ entry ∈ fields, ∃ tree, ofValue entry.2 = .ok tree := by
  constructor
  · rintro ⟨members, made⟩ entry mem
    obtain ⟨member, -, -, here⟩ := Result.exists_of_mem_left (ofFields_eq_ok.1 made) mem
    exact ⟨member.2, here⟩
  · intro each
    obtain ⟨members, alike⟩ : ∃ members : List (String × JsonTree),
        Dict.Alike (fun v tree => ofValue v = .ok tree) fields members := Dict.exists_alike each
    exact ⟨members, ofFields_eq_ok.2 alike⟩

theorem memberValues_type (typeName : String) (members : List (String × JsonTree)) :
    memberValues ((typeKey, .text typeName) :: members)
      = (memberValues members).map fun others => (some typeName, others.2) := by
  rw [memberValues, if_pos rfl]
  cases memberValues members <;> rfl

theorem memberValues_illegal {item : JsonTree} (noText : ∀ s, item ≠ .text s)
    (members : List (String × JsonTree)) :
    memberValues ((typeKey, item) :: members) = .error .typeNotText := by
  rw [memberValues, if_pos rfl]
  · rfl
  · exact noText

theorem memberValues_field {name : String} (field : name ≠ typeKey) (item : JsonTree)
    (members : List (String × JsonTree)) :
    memberValues ((name, item) :: members)
      = (toValue item).bind fun v =>
        (memberValues members).map fun others => (others.1, (name, v) :: others.2) := by
  cases item <;> rw [memberValues, if_neg field] <;> first | rfl | exact fun _ => nofun

/-- The type of an object is its member `!type`, and the other members are its fields. -/
theorem memberValues_eq_ok {members : List (String × JsonTree)} (sorted : Dict.Sorted members)
    {typeName? : Option String} {fields : Fields} :
    memberValues members = .ok (typeName?, fields)
      ↔ Dict.get? members typeKey = typeName?.map JsonTree.text
        ∧ Dict.Alike (fun tree v => toValue tree = .ok v) (Dict.erase members typeKey) fields := by
  unfold Dict.Alike
  induction members generalizing typeName? fields with
  | nil =>
    rw [Dict.get?_nil, Dict.erase, List.filter_nil, List.forall₂_nil_left_iff, memberValues]
    constructor
    · intro same
      cases same
      exact ⟨rfl, rfl⟩
    · rintro ⟨none, rfl⟩
      rw [Option.map_eq_none_iff.1 none.symm]
  | cons entry members ih =>
    obtain ⟨name, item⟩ := entry
    obtain ⟨above, tail⟩ := List.pairwise_cons.1 sorted
    by_cases isType : name = typeKey
    · subst isType
      -- Names are in order, so no second type comes after the first.
      have absent : Dict.get? members typeKey = none := Dict.get?_eq_none_of_lt above
      rw [Dict.get?_cons, if_pos rfl, Dict.erase_cons_self]
      constructor
      · intro told
        by_cases text : ∃ s, item = .text s
        · obtain ⟨s, rfl⟩ := text
          rw [memberValues_type] at told
          obtain ⟨⟨other?, others⟩, later, whole⟩ := Result.map_eq_ok.1 told
          cases whole
          exact ⟨rfl, ((ih tail).1 later).2⟩
        · rw [memberValues_illegal fun s same => text ⟨s, same⟩] at told
          cases told
      · rintro ⟨named, alike⟩
        obtain ⟨s, rfl, same⟩ := Option.map_eq_some_iff.1 named.symm
        have others : memberValues members = .ok (none, fields) := (ih tail).2 ⟨absent, alike⟩
        rw [← same, memberValues_type, others]
        rfl
    · rw [Dict.get?_cons, if_neg fun same => isType same.symm, Dict.erase_cons_of_ne isType,
        memberValues_field isType, List.forall₂_cons_left_iff]
      constructor
      · intro told
        obtain ⟨v, here, more⟩ := Result.bind_eq_ok.1 told
        obtain ⟨⟨other?, others⟩, later, whole⟩ := Result.map_eq_ok.1 more
        cases whole
        obtain ⟨named, alike⟩ := (ih tail).1 later
        exact ⟨named, (name, v), others, ⟨rfl, here⟩, alike, rfl⟩
      · rintro ⟨named, ⟨_, v⟩, others, ⟨rfl, here⟩, alike, rfl⟩
        rw [here, (ih tail).2 ⟨named, alike⟩]
        rfl

/-- The fields of an object come from its members, in order and beside its type. -/
theorem fields_of_memberValues {members : List (String × JsonTree)} (sorted : Dict.Sorted members)
    {typeName? : Option String} {fields : Fields}
    (told : memberValues members = .ok (typeName?, fields)) :
    Dict.Sorted fields ∧ typeKey ∉ Dict.keys fields
      ∧ ∀ entry ∈ fields, ∃ member ∈ members, toValue member.2 = .ok entry.2 := by
  obtain ⟨-, alike⟩ := (memberValues_eq_ok sorted).1 told
  refine ⟨alike.sorted (Dict.sorted_erase sorted typeKey),
    alike.keys_eq ▸ Dict.not_mem_keys_erase members typeKey, fun entry mem => ?_⟩
  obtain ⟨member, kept, -, here⟩ := Result.exists_of_mem_right alike mem
  exact ⟨member, (List.mem_filter.1 kept).1, here⟩

/-- The members of an object tell a value exactly if its type is a text and the other members tell
one. -/
theorem exists_memberValues_iff {members : List (String × JsonTree)}
    (sorted : Dict.Sorted members) : (∃ told, memberValues members = .ok told)
      ↔ (∀ item, Dict.get? members typeKey = some item → ∃ s, item = .text s)
        ∧ ∀ entry ∈ members, ∃ v, toValue entry.2 = .ok v := by
  constructor
  · rintro ⟨⟨typeName?, fields⟩, told⟩
    obtain ⟨named, alike⟩ := (memberValues_eq_ok sorted).1 told
    have type : ∀ item, Dict.get? members typeKey = some item → ∃ s, item = .text s := by
      intro item found
      obtain ⟨s, -, same⟩ := Option.map_eq_some_iff.1 (named.symm.trans found)
      exact ⟨s, same.symm⟩
    refine ⟨type, fun entry mem => ?_⟩
    by_cases isType : entry.1 = typeKey
    · obtain ⟨s, same⟩ := type entry.2 (Dict.get?_of_mem sorted (isType ▸ mem))
      exact ⟨.text s, by rw [same, toValue]⟩
    · have kept : entry ∈ Dict.erase members typeKey := List.mem_filter.2 ⟨mem, bne_iff_ne.2 isType⟩
      obtain ⟨field, -, -, here⟩ := Result.exists_of_mem_left alike kept
      exact ⟨field.2, here⟩
  · rintro ⟨type, each⟩
    obtain ⟨fields, alike⟩ : ∃ fields : Fields,
        Dict.Alike (fun tree v => toValue tree = .ok v) (Dict.erase members typeKey) fields :=
      Dict.exists_alike fun entry mem => each entry (List.mem_filter.1 mem).1
    cases found : Dict.get? members typeKey with
    | none => exact ⟨(none, fields), (memberValues_eq_ok sorted).2 ⟨found, alike⟩⟩
    | some item =>
      obtain ⟨s, rfl⟩ := type item found
      exact ⟨(some s, fields), (memberValues_eq_ok sorted).2 ⟨found, alike⟩⟩

end RestService.JsonTree
