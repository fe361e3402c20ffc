import RestService.Proofs.Decimal.Digits
import RestService.Proofs.Json.Value
import RestService.Proofs.Resource.Value

set_option autoImplicit false

namespace RestService

/-- All floating-point numbers of a value are finite. -/
def Value.Finite (v : Value) : Prop :=
  v.Everywhere fun
    | .float x => x.isFinite = true
    | _ => True

namespace JsonTree

def isScalar : JsonTree → Bool
  | .null | .bool _ | .integer _ | .float _ | .text _ => true
  | .array _ | .object _ => false

theorem induct {P : JsonTree → Prop} (scalar : ∀ tree, tree.isScalar = true → P tree)
    (array : ∀ items, (∀ item ∈ items, P item) → P (.array items))
    (object : ∀ members, (∀ entry ∈ members, P entry.2) → P (.object members))
    (tree : JsonTree) : P tree :=
  JsonTree.rec (motive_1 := P) (motive_2 := fun items => ∀ item ∈ items, P item)
    (motive_3 := fun members => ∀ entry ∈ members, P entry.2) (motive_4 := fun entry => P entry.2)
    (scalar .null rfl) (fun b => scalar (.bool b) rfl) (fun n => scalar (.integer n) rfl)
    (fun x => scalar (.float x) rfl) (fun s => scalar (.text s) rfl) array object
    (List.forall_mem_nil _) (fun _ _ here later => List.forall_mem_cons.2 ⟨here, later⟩)
    (List.forall_mem_nil _) (fun _ _ here later => List.forall_mem_cons.2 ⟨here, later⟩)
    (fun _ _ here => here) tree

/-- `P` holds of a document and of every document in it. -/
inductive Everywhere (P : JsonTree → Prop) : JsonTree → Prop
  | scalar {tree : JsonTree} (simple : tree.isScalar = true) (here : P tree) : Everywhere P tree
  | array {items : List JsonTree} (here : P (.array items))
      (inner : ∀ item ∈ items, Everywhere P item) : Everywhere P (.array items)
  | object {members : List (String × JsonTree)} (here : P (.object members))
      (inner : ∀ entry ∈ members, Everywhere P entry.2) : Everywhere P (.object members)

section Everywhere

variable {P : JsonTree → Prop}

theorem everywhere_of_isScalar {tree : JsonTree} (simple : tree.isScalar = true) :
    tree.Everywhere P ↔ P tree := by
  refine ⟨fun all => ?_, .scalar simple⟩
  cases all with
  | scalar _ here => exact here
  | _ => cases simple

theorem everywhere_array {items : List JsonTree} :
    Everywhere P (.array items) ↔ P (.array items) ∧ ∀ item ∈ items, item.Everywhere P := by
  refine ⟨fun all => ?_, fun all => .array all.1 all.2⟩
  cases all with
  | scalar simple => cases simple
  | array here inner => exact ⟨here, inner⟩

theorem everywhere_object {members : List (String × JsonTree)} :
    Everywhere P (.object members)
      ↔ P (.object members) ∧ ∀ entry ∈ members, entry.2.Everywhere P := by
  refine ⟨fun all => ?_, fun all => .object all.1 all.2⟩
  cases all with
  | scalar simple => cases simple
  | object here inner => exact ⟨here, inner⟩

end Everywhere

/-- The members of every object are in order, so their names differ. -/
def Ordered (tree : JsonTree) : Prop :=
  tree.Everywhere fun
    | .object members => Dict.Sorted members
    | _ => True

/-- Whole numbers fit 64 bits with a sign, and all others are finite. -/
def Bounded (tree : JsonTree) : Prop :=
  tree.Everywhere fun
    | .integer n => -Decimal.twoTo 63 ≤ n ∧ n < Decimal.twoTo 63
    | .float x => x.isFinite = true
    | _ => True

/-- No object has a type that is not a text. -/
def NamesTypes (tree : JsonTree) : Prop :=
  tree.Everywhere fun
    | .object members => ∀ item, Dict.get? members typeKey = some item → ∃ s, item = .text s
    | _ => True

/-- The members for the fields of a record are in order, and the fields can be read off them. -/
theorem alike_of_ofFields {fields : Fields} {members : List (String × JsonTree)}
    (sorted : Dict.Sorted fields) (untyped : typeKey ∉ Dict.keys fields)
    (each : ∀ entry ∈ fields, ∀ tree, ofValue entry.2 = .ok tree → tree.toValue = .ok entry.2)
    (made : ofFields fields = .ok members) :
    Dict.Sorted members ∧ typeKey ∉ Dict.keys members
      ∧ Dict.Alike (fun tree v => tree.toValue = .ok v) members fields := by
  have alike := ofFields_eq_ok.1 made
  have back : Dict.Alike (fun v tree => tree.toValue = .ok v) fields members := alike.imp each
  exact ⟨alike.sorted sorted, alike.keys_eq ▸ untyped, back.flip⟩

/-- A value can be read off its document. -/
theorem toValue_of_ofValue {v : Value} {tree : JsonTree} (orderly : v.Orderly)
    (made : ofValue v = .ok tree) : tree.toValue = .ok v := by
  induction v using Value.induct generalizing tree with
  | scalar v simple =>
    cases v with
    | null | bool b | text s =>
      cases made
      rfl
    | int n =>
      cases made
      rw [toValue, Decimal.toInt64?_toInt]
    | float x =>
      rw [ofValue] at made
      split at made
      · cases made
        rfl
      · cases made
    | _ => cases simple
  | list items ih =>
    obtain ⟨-, inner⟩ := Value.everywhere_list.1 orderly
    rw [ofValue] at made
    obtain ⟨trees, each, rfl⟩ := Result.map_eq_ok.1 made
    have back := Result.forall₂_imp (ofItems_eq_ok.1 each) fun item mem _ here =>
      ih item mem (inner item mem) here
    rw [toValue, itemValues_eq_ok.2 back.flip]
    rfl
  | mapping fields ih =>
    obtain ⟨⟨sorted, untyped⟩, inner⟩ := Value.everywhere_mapping.1 orderly
    rw [ofValue] at made
    obtain ⟨members, each, rfl⟩ := Result.map_eq_ok.1 made
    obtain ⟨order, absent, alike⟩ := alike_of_ofFields sorted untyped
      (fun entry mem tree here => ih entry mem (inner entry mem) here) each
    have told : memberValues members = .ok (none, fields) := by
      rw [memberValues_eq_ok order, Dict.get?_eq_none_iff.2 absent,
        Dict.erase_of_not_mem_keys absent]
      exact ⟨rfl, alike⟩
    rw [Dict.ofList_of_sorted order, toValue, told]
    rfl
  | resource typeName fields ih =>
    obtain ⟨⟨sorted, untyped⟩, inner⟩ := Value.everywhere_resource.1 orderly
    rw [ofValue] at made
    obtain ⟨members, each, rfl⟩ := Result.map_eq_ok.1 made
    obtain ⟨order, absent, alike⟩ := alike_of_ofFields sorted untyped
      (fun entry mem tree here => ih entry mem (inner entry mem) here) each
    have told : memberValues (Dict.ofList ((typeKey, .text typeName) :: members))
        = .ok (some typeName, fields) := by
      rw [memberValues_eq_ok (Dict.sorted_ofList _), Dict.get?_ofList_cons order absent,
        if_pos rfl, Dict.erase_ofList_cons order absent]
      exact ⟨rfl, alike⟩
    rw [toValue, told]
    rfl

/-- A value has a document exactly if its numbers are finite. -/
theorem exists_ofValue_iff {v : Value} : (∃ tree, ofValue v = .ok tree) ↔ v.Finite := by
  induction v using Value.induct with
  | scalar v simple =>
    rw [Value.Finite, Value.everywhere_of_isScalar simple]
    cases v with
    | null | bool b | int n | text s => exact ⟨fun _ => trivial, fun _ => ⟨_, rfl⟩⟩
    | float x =>
      rw [ofValue]
      by_cases finite : x.isFinite = true
      · rw [if_pos finite]
        exact ⟨fun _ => finite, fun _ => ⟨_, rfl⟩⟩
      · rw [if_neg finite]
        refine ⟨?_, fun here => absurd here finite⟩
        rintro ⟨_, ⟨⟩⟩
    | _ => cases simple
  | list items ih =>
    rw [Value.Finite, Value.everywhere_list, true_and, ofValue, Result.exists_map_eq_ok,
      exists_ofItems_iff]
    exact forall₂_congr ih
  | mapping fields ih =>
    rw [Value.Finite, Value.everywhere_mapping, true_and, ofValue, Result.exists_map_eq_ok,
      exists_ofFields_iff]
    exact forall₂_congr ih
  | resource typeName fields ih =>
    rw [Value.Finite, Value.everywhere_resource, true_and, ofValue, Result.exists_map_eq_ok,
      exists_ofFields_iff]
    exact forall₂_congr ih

/-- The map of members that are in order is in order. -/
theorem ordered_object {members : List (String × JsonTree)}
    (each : ∀ entry ∈ members, entry.2.Ordered ∧ entry.2.Bounded) :
    Ordered (.object (Dict.ofList members)) ∧ Bounded (.object (Dict.ofList members)) :=
  have inner : ∀ entry ∈ Dict.ofList members, entry.2.Ordered ∧ entry.2.Bounded :=
    fun entry mem => each entry (Dict.mem_of_mem_ofList mem)
  ⟨.object (Dict.sorted_ofList members) fun entry mem => (inner entry mem).1,
    .object trivial fun entry mem => (inner entry mem).2⟩

/-- The document of a value is in order, and its numbers are in range. -/
theorem ordered_of_ofValue {v : Value} {tree : JsonTree} (made : ofValue v = .ok tree) :
    tree.Ordered ∧ tree.Bounded := by
  have members {fields : Fields} {members : List (String × JsonTree)}
      (ih : ∀ entry ∈ fields, ∀ tree, ofValue entry.2 = .ok tree → tree.Ordered ∧ tree.Bounded)
      (made : ofFields fields = .ok members) :
      ∀ member ∈ members, member.2.Ordered ∧ member.2.Bounded := by
    intro member mem
    obtain ⟨entry, inside, -, here⟩ := Result.exists_of_mem_right (ofFields_eq_ok.1 made) mem
    exact ih entry inside member.2 here
  induction v using Value.induct generalizing tree with
  | scalar v simple =>
    cases v with
    | null | bool b | text s =>
      cases made
      exact ⟨.scalar rfl trivial, .scalar rfl trivial⟩
    | int n =>
      cases made
      exact ⟨.scalar rfl trivial, .scalar rfl ⟨n.le_toInt, n.toInt_lt⟩⟩
    | float x =>
      rw [ofValue] at made
      split at made
      · rename_i finite
        cases made
        exact ⟨.scalar rfl trivial, .scalar rfl finite⟩
      · cases made
    | _ => cases simple
  | list items ih =>
    rw [ofValue] at made
    obtain ⟨trees, each, rfl⟩ := Result.map_eq_ok.1 made
    have inner : ∀ tree ∈ trees, tree.Ordered ∧ tree.Bounded := by
      intro tree mem
      obtain ⟨item, inside, here⟩ := Result.exists_of_mem_right (ofItems_eq_ok.1 each) mem
      exact ih item inside here
    exact ⟨.array trivial fun tree mem => (inner tree mem).1,
      .array trivial fun tree mem => (inner tree mem).2⟩
  | mapping fields ih =>
    rw [ofValue] at made
    obtain ⟨_, each, rfl⟩ := Result.map_eq_ok.1 made
    exact ordered_object (members (fun entry mem _ here => ih entry mem here) each)
  | resource typeName fields ih =>
    rw [ofValue] at made
    obtain ⟨_, each, rfl⟩ := Result.map_eq_ok.1 made
    refine ordered_object (List.forall_mem_cons.2 ⟨?_, ?_⟩)
    · exact ⟨.scalar rfl trivial, .scalar rfl trivial⟩
    · exact members (fun entry mem _ here => ih entry mem here) each

/-- A document tells a value exactly if the types of its objects are texts. -/
theorem exists_toValue_iff {tree : JsonTree} (ordered : tree.Ordered) :
    (∃ v, tree.toValue = .ok v) ↔ tree.NamesTypes := by
  induction tree using induct with
  | scalar tree simple =>
    rw [NamesTypes, everywhere_of_isScalar simple]
    cases tree with
    | integer n =>
      rw [toValue]
      split <;> exact ⟨fun _ => trivial, fun _ => ⟨_, rfl⟩⟩
    | array items => cases simple
    | object members => cases simple
    | _ => exact ⟨fun _ => trivial, fun _ => ⟨_, rfl⟩⟩
  | array items ih =>
    obtain ⟨-, inner⟩ := everywhere_array.1 ordered
    rw [NamesTypes, everywhere_array, true_and, toValue, Result.exists_map_eq_ok,
      exists_itemValues_iff]
    exact forall₂_congr fun item mem => ih item mem (inner item mem)
  | object members ih =>
    obtain ⟨sorted, inner⟩ := everywhere_object.1 ordered
    rw [NamesTypes, everywhere_object, toValue, Result.exists_map_eq_ok,
      exists_memberValues_iff sorted]
    exact and_congr_right fun _ => forall₂_congr fun entry mem => ih entry mem (inner entry mem)

/-- A document can be made again of the value that it tells. -/
theorem ofValue_of_toValue {tree : JsonTree} {v : Value} (ordered : tree.Ordered)
    (bounded : tree.Bounded) (told : tree.toValue = .ok v) : ofValue v = .ok tree := by
  induction tree using induct generalizing v with
  | scalar tree simple =>
    have range := (everywhere_of_isScalar simple).1 bounded
    cases tree with
    | integer n =>
      have fits : Decimal.toInt64? n = some (Int64.ofInt n) := if_pos range
      rw [toValue, fits] at told
      cases told
      rw [ofValue, Decimal.toInt_of_toInt64? fits]
    | float x =>
      cases told
      rw [ofValue, if_pos range]
    | array items => cases simple
    | object members => cases simple
    | _ =>
      cases told
      rfl
  | array items ih =>
    obtain ⟨-, order⟩ := everywhere_array.1 ordered
    obtain ⟨-, range⟩ := everywhere_array.1 bounded
    rw [toValue] at told
    obtain ⟨vs, each, rfl⟩ := Result.map_eq_ok.1 told
    have back := Result.forall₂_imp (itemValues_eq_ok.1 each) fun item mem _ here =>
      ih item mem (order item mem) (range item mem) here
    rw [ofValue, ofItems_eq_ok.2 back.flip]
    rfl
  | object members ih =>
    obtain ⟨sorted, order⟩ := everywhere_object.1 ordered
    obtain ⟨-, range⟩ := everywhere_object.1 bounded
    rw [toValue] at told
    obtain ⟨⟨typeName?, fields⟩, all, rfl⟩ := Result.map_eq_ok.1 told
    obtain ⟨named, alike⟩ := (memberValues_eq_ok sorted).1 all
    have back : Dict.Alike (fun tree v => ofValue v = .ok tree)
        (Dict.erase members typeKey) fields :=
      alike.imp fun entry mem _ here =>
        have inside := (List.mem_filter.1 mem).1
        ih entry inside (order entry inside) (range entry inside) here
    have made : ofFields fields = .ok (Dict.erase members typeKey) := ofFields_eq_ok.2 back.flip
    cases typeName? with
    | none =>
      have absent : typeKey ∉ Dict.keys members := Dict.get?_eq_none_iff.1 named
      rw [Dict.erase_of_not_mem_keys absent] at made
      change ofValue (.mapping fields) = _
      rw [ofValue, made]
      exact congrArg (fun all => Except.ok (object all)) (Dict.ofList_of_sorted sorted)
    | some typeName =>
      change ofValue (.resource typeName fields) = _
      rw [ofValue, made]
      exact congrArg (fun all => Except.ok (object all)) (Dict.ofList_cons_erase sorted named)

/-- The records of a value that a document tells are in order. -/
theorem orderly_of_toValue {tree : JsonTree} {v : Value} (ordered : tree.Ordered)
    (told : tree.toValue = .ok v) : v.Orderly := by
  induction tree using induct generalizing v with
  | scalar tree simple =>
    cases tree with
    | integer n =>
      rw [toValue] at told
      split at told <;> cases told <;> exact .scalar rfl trivial
    | array items => cases simple
    | object members => cases simple
    | _ =>
      cases told
      exact .scalar rfl trivial
  | array items ih =>
    obtain ⟨-, order⟩ := everywhere_array.1 ordered
    rw [toValue] at told
    obtain ⟨vs, each, rfl⟩ := Result.map_eq_ok.1 told
    refine .list trivial fun v mem => ?_
    obtain ⟨item, inside, here⟩ := Result.exists_of_mem_right (itemValues_eq_ok.1 each) mem
    exact ih item inside (order item inside) here
  | object members ih =>
    obtain ⟨sorted, order⟩ := everywhere_object.1 ordered
    rw [toValue] at told
    obtain ⟨⟨typeName?, fields⟩, all, rfl⟩ := Result.map_eq_ok.1 told
    obtain ⟨order', untyped, members⟩ := fields_of_memberValues sorted all
    have inner : ∀ entry ∈ fields, entry.2.Orderly := by
      intro entry mem
      obtain ⟨member, inside, found⟩ := members entry mem
      exact ih member inside (order member inside) found
    cases typeName? with
    | none => exact .mapping ⟨order', untyped⟩ inner
    | some typeName => exact .resource ⟨order', untyped⟩ inner

/-- Values in order with finite numbers and documents in order with types that are texts answer to
each other: a value has a document exactly if its numbers are finite, a document tells a value
exactly if its types are texts, and either way back leads to where one came from. -/
theorem bijective :
    (∀ v : Value, v.Orderly → ((∃ tree, ofValue v = .ok tree) ↔ v.Finite)
      ∧ ∀ tree, ofValue v = .ok tree → tree.toValue = .ok v ∧ tree.Ordered ∧ tree.Bounded)
    ∧ ∀ tree : JsonTree, tree.Ordered → tree.Bounded →
      ((∃ v, tree.toValue = .ok v) ↔ tree.NamesTypes)
        ∧ ∀ v, tree.toValue = .ok v → ofValue v = .ok tree ∧ v.Orderly := by
  refine ⟨fun v orderly => ⟨exists_ofValue_iff, fun tree made => ?_⟩,
    fun tree ordered bounded => ⟨exists_toValue_iff ordered, fun v told => ?_⟩⟩
  · exact ⟨toValue_of_ofValue orderly made, ordered_of_ofValue made⟩
  · exact ⟨ofValue_of_toValue ordered bounded told, orderly_of_toValue ordered told⟩

/-- A book with a negative zero for its price and with a tag that has no type. -/
def book : Value :=
  .resource "book"
    [("price", .float (-0.0)), ("tags", .list [.mapping [("name", .text "fiction")]])]

def bookDocument : JsonTree :=
  .object [("!type", .text "book"), ("price", .float (-0.0)),
    ("tags", .array [.object [("name", .text "fiction")]])]

theorem bijective_book : book.Orderly ∧ ofValue book = .ok bookDocument ∧ book.Finite
    ∧ bookDocument.toValue = .ok book ∧ bookDocument.Ordered ∧ bookDocument.Bounded
    ∧ bookDocument.NamesTypes := by
  have tag : Value.Orderly (.mapping [("name", .text "fiction")]) :=
    .mapping ⟨by decide +kernel, by decide⟩ (List.forall_mem_singleton.2 (.scalar rfl trivial))
  have orderly : book.Orderly :=
    .resource ⟨by decide +kernel, by decide⟩ (List.forall_mem_cons.2 ⟨.scalar rfl trivial,
      List.forall_mem_singleton.2 (.list trivial (List.forall_mem_singleton.2 tag))⟩)
  have made : ofValue book = .ok bookDocument := rfl
  obtain ⟨exists_iff, back⟩ := bijective.1 book orderly
  obtain ⟨told, ordered, bounded⟩ := back bookDocument made
  obtain ⟨names_iff, -⟩ := bijective.2 bookDocument ordered bounded
  exact ⟨orderly, made, exists_iff.1 ⟨_, made⟩, told, ordered, bounded, names_iff.1 ⟨_, told⟩⟩

end JsonTree

end RestService
