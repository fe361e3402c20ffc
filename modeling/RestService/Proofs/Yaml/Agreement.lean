import RestService.Proofs.Decimal.Digits
import RestService.Proofs.Json.Bijection
import RestService.Proofs.Yaml.Record

set_option autoImplicit false

namespace RestService

/-- The types of all resources of a value can be the names of tags. -/
def Value.Taggable (v : Value) : Prop :=
  v.Everywhere fun
    | .resource typeName _ => YamlTree.IsTag typeName
    | _ => True

namespace YamlTree

/-- The content of a JSON document in YAML, with the entries of its mappings in any order. -/
inductive Renders : JsonTree → YamlTree → Prop
  | null : Renders .null .null
  | bool (b : Bool) : Renders (.bool b) (.bool b)
  | integer (n : Int) : Renders (.integer n) (.integer n)
  | float (x : Float) : Renders (.float x) (.float x)
  | text (s : String) : Renders (.text s) (.text s)
  | sequence {items : List JsonTree} {nodes : List YamlTree}
      (each : List.Forall₂ Renders items nodes) : Renders (.array items) (.sequence nodes)
  | mapping {members : List (String × JsonTree)} {inOrder items : List (String × YamlTree)}
      (names : Dict.keys members = Dict.keys inOrder)
      (each : List.Forall₂ Renders (members.map Prod.snd) (inOrder.map Prod.snd))
      (order : items.Perm inOrder) : Renders (.object members) (.mapping (keyed items))

theorem exists_renders (tree : JsonTree) : ∃ node, Renders tree node := by
  induction tree using JsonTree.induct with
  | scalar tree simple =>
    cases tree with
    | null => exact ⟨_, .null⟩
    | bool b => exact ⟨_, .bool b⟩
    | integer n => exact ⟨_, .integer n⟩
    | float x => exact ⟨_, .float x⟩
    | text s => exact ⟨_, .text s⟩
    | array | object => cases simple
  | array items ih =>
    obtain ⟨nodes, each⟩ := Result.exists_forall₂ ih
    exact ⟨_, .sequence each⟩
  | object members ih =>
    obtain ⟨items, alike⟩ : ∃ items : Dict YamlTree, Dict.Alike Renders members items :=
      Dict.exists_alike ih
    obtain ⟨names, each⟩ := Dict.alike_iff.1 alike
    exact ⟨_, .mapping names each (List.Perm.refl items)⟩

theorem Renders.eq_text_iff {item : JsonTree} {node : YamlTree} (same : Renders item node)
    (s : String) : node = .text s ↔ item = .text s := by
  cases same <;> simp

theorem ofFields_of_alike {fields : Fields} {items : List (String × YamlTree)}
    (alike : Dict.Alike (fun v node => ofValue v = .ok node) fields items) :
    ofFields fields = .ok (keyed items) := by
  unfold Dict.Alike at alike
  induction alike with
  | nil => rfl
  | @cons first second _ _ here _ ih =>
    obtain ⟨name, v⟩ := first
    obtain ⟨_, node⟩ := second
    obtain ⟨rfl, made⟩ := here
    rw [ofFields, made, ih]
    rfl

/-- The fields of a record come back from the entries for them. -/
theorem exists_ofFields {fields : Fields} (sorted : Dict.Sorted fields)
    (untyped : typeKey ∉ Dict.keys fields)
    (each : ∀ entry ∈ fields, ∃ node, ofValue entry.2 = .ok node ∧ toValue node = .ok entry.2) :
    ∃ entries, ofFields fields = .ok entries ∧ recordFrom {} entries = .ok ⟨none, fields⟩ := by
  obtain ⟨items, alike⟩ : ∃ items : Dict YamlTree,
      Dict.Alike (fun v node => ofValue v = .ok node ∧ toValue node = .ok v) fields items :=
    Dict.exists_alike each
  have absent : typeKey ∉ Dict.keys items := alike.keys_eq ▸ untyped
  refine ⟨keyed items, ofFields_of_alike (alike.imp fun _ _ _ both => both.1), ?_⟩
  rw [recordFrom_keyed_of_perm (alike.sorted sorted) (List.Perm.refl items),
    Dict.get?_eq_none_iff.2 absent, Dict.erase_of_not_mem_keys absent]
  exact ⟨rfl, (alike.imp fun _ _ _ both => both.2).flip⟩

/-- A value has a document, and can be read off it. -/
theorem exists_ofValue {v : Value} (orderly : v.Orderly) (taggable : v.Taggable) :
    ∃ node, ofValue v = .ok node ∧ toValue node = .ok v := by
  induction v using Value.induct with
  | scalar v simple =>
    cases v with
    | int n =>
      refine ⟨_, rfl, ?_⟩
      rw [toValue, Decimal.toInt64?_toInt]
    | null | bool b | float x | text s => exact ⟨_, rfl, rfl⟩
    | _ => cases simple
  | list items ih =>
    obtain ⟨-, order⟩ := Value.everywhere_list.1 orderly
    obtain ⟨-, tags⟩ := Value.everywhere_list.1 taggable
    obtain ⟨nodes, each⟩ := Result.exists_forall₂ fun item mem =>
      ih item mem (order item mem) (tags item mem)
    refine ⟨.sequence nodes, ?_, ?_⟩
    · rw [ofValue, ofItems_eq_ok.2 (each.imp fun _ _ both => both.1)]
      rfl
    · rw [toValue, itemValues_eq_ok.2 (each.imp fun _ _ both => both.2).flip]
      rfl
  | mapping fields ih =>
    obtain ⟨⟨sorted, untyped⟩, order⟩ := Value.everywhere_mapping.1 orderly
    obtain ⟨-, tags⟩ := Value.everywhere_mapping.1 taggable
    obtain ⟨entries, made, told⟩ := exists_ofFields sorted untyped fun entry mem =>
      ih entry mem (order entry mem) (tags entry mem)
    refine ⟨.mapping entries, ?_, ?_⟩
    · rw [ofValue, made]
      rfl
    · rw [toValue, told]
      rfl
  | resource typeName fields ih =>
    obtain ⟨⟨sorted, untyped⟩, order⟩ := Value.everywhere_resource.1 orderly
    obtain ⟨tag, tags⟩ := Value.everywhere_resource.1 taggable
    obtain ⟨entries, made, told⟩ := exists_ofFields sorted untyped fun entry mem =>
      ih entry mem (order entry mem) (tags entry mem)
    refine ⟨.tagged typeName (.mapping entries), ?_, ?_⟩
    · rw [ofValue, if_neg tag.1, made]
      rfl
    · rw [toValue, told, typeOfTag_eq tag]
      rfl

/-- The entries for the members of an object tell the same record, whatever their order. -/
theorem recordFrom_iff_memberValues {members : List (String × JsonTree)}
    {inOrder items : List (String × YamlTree)} (sorted : Dict.Sorted members)
    (alike : Dict.Alike Renders members inOrder) (order : items.Perm inOrder)
    (each : ∀ entry ∈ members, ∀ node, Renders entry.2 node → ∀ v,
      toValue node = .ok v ↔ JsonTree.toValue entry.2 = .ok v)
    (typeName? : Option String) (fields : Fields) :
    recordFrom {} (keyed items) = .ok ⟨typeName?, fields⟩
      ↔ JsonTree.memberValues members = .ok (typeName?, fields) := by
  have type : Dict.get? inOrder typeKey = typeName?.map YamlTree.text
      ↔ Dict.get? members typeKey = typeName?.map JsonTree.text := by
    rcases alike.get? typeKey with ⟨none, none'⟩ | ⟨item, node, found, found', same⟩
    · rw [none, none']
      cases typeName? <;> simp
    · rw [found, found']
      cases typeName? with
      | none => simp
      | some s => simpa using same.eq_text_iff s
  rw [recordFrom_keyed_of_perm (alike.sorted sorted) order, JsonTree.memberValues_eq_ok sorted,
    type]
  refine and_congr_right fun _ => (Result.forall₂_iff (alike.erase typeKey) ?_).symm
  rintro entry mem other ⟨name, same⟩ field
  rw [name]
  exact and_congr_right fun _ => (each entry (List.mem_filter.1 mem).1 other.2 same field.2).symm

/-- Documents with the same content tell the same value, or none. -/
theorem toValue_iff_of_renders {tree : JsonTree} {node : YamlTree} (ordered : tree.Ordered)
    (same : Renders tree node) (v : Value) : toValue node = .ok v ↔ tree.toValue = .ok v := by
  induction tree using JsonTree.induct generalizing node v with
  | scalar tree simple =>
    cases same with
    | integer n =>
      rw [toValue, JsonTree.toValue]
      cases Decimal.toInt64? n <;> simp
    | null | bool b | float x | text s => simp [toValue, JsonTree.toValue]
    | sequence | mapping => cases simple
  | array items ih =>
    obtain ⟨-, inner⟩ := JsonTree.everywhere_array.1 ordered
    cases same with
    | sequence each =>
      rw [toValue, JsonTree.toValue, Result.map_eq_ok, Result.map_eq_ok]
      refine exists_congr fun vs => and_congr_left' ?_
      rw [itemValues_eq_ok, JsonTree.itemValues_eq_ok]
      exact (Result.forall₂_iff each fun item mem node here v =>
        (ih item mem (inner item mem) here v).symm).symm
  | object members ih =>
    obtain ⟨sorted, inner⟩ := JsonTree.everywhere_object.1 ordered
    cases same with
    | mapping names each order =>
      have record := recordFrom_iff_memberValues sorted (Dict.alike_iff.2 ⟨names, each⟩) order
        fun entry mem node here v => ih entry mem (inner entry mem) here v
      rw [toValue, JsonTree.toValue, Result.map_eq_ok, Result.map_eq_ok]
      constructor
      · rintro ⟨⟨typeName?, fields⟩, told, rfl⟩
        exact ⟨(typeName?, fields), (record typeName? fields).1 told, rfl⟩
      · rintro ⟨⟨typeName?, fields⟩, told, rfl⟩
        exact ⟨⟨typeName?, fields⟩, (record typeName? fields).2 told, rfl⟩

/-- Every value in order whose types can be tags comes back from its document. A YAML document with
the content of a JSON document tells a value exactly if the latter does, and it is the same one. And
the type of a record may stand in a tag or in an entry. -/
theorem lossless :
    (∀ v : Value, v.Orderly → v.Taggable → ∃ node, ofValue v = .ok node ∧ toValue node = .ok v)
    ∧ (∀ tree : JsonTree, tree.Ordered → (∃ node, Renders tree node)
      ∧ ∀ node, Renders tree node → ∀ v, toValue node = .ok v ↔ tree.toValue = .ok v)
    ∧ ∀ (before after : List (YamlTree × YamlTree)) (typeName : String), IsTag typeName →
      (∀ entry ∈ before ++ after, keyText entry.1 ≠ .ok typeKey) →
      toValue (.tagged typeName (.mapping (before ++ after)))
        = toValue (.mapping (before ++ (.text typeKey, .text typeName) :: after)) :=
  ⟨fun _ orderly taggable => exists_ofValue orderly taggable,
    fun tree ordered =>
      ⟨exists_renders tree, fun _ same v => toValue_iff_of_renders ordered same v⟩,
    fun _ _ _ tag untyped => toValue_tagged untyped tag⟩

/-- A sensor whose limit is infinite and whose offset is not a number. -/
def sensor : Value :=
  .resource "sensor" [("limit", .float (1 / 0)), ("offset", .float (0 / 0))]

theorem lossless_sensor :
    (∃ node, ofValue sensor = .ok node ∧ toValue node = .ok sensor)
    ∧ toValue (.mapping (keyed [("limit", .integer 3), ("!type", .text "sensor")]))
      = .ok (.resource "sensor" [("limit", .int 3)])
    ∧ toValue (.tagged "sensor" (.mapping (keyed [("limit", .integer 3)])))
      = .ok (.resource "sensor" [("limit", .int 3)]) := by
  have orderly : sensor.Orderly :=
    .resource ⟨by decide +kernel, by decide⟩ (List.forall_mem_cons.2
      ⟨.scalar rfl trivial, List.forall_mem_singleton.2 (.scalar rfl trivial)⟩)
  have taggable : sensor.Taggable :=
    .resource (by decide) (List.forall_mem_cons.2
      ⟨.scalar rfl trivial, List.forall_mem_singleton.2 (.scalar rfl trivial)⟩)
  have ordered : JsonTree.Ordered (.object [("!type", .text "sensor"), ("limit", .integer 3)]) :=
    .object (by decide +kernel) (List.forall_mem_cons.2
      ⟨.scalar rfl trivial, List.forall_mem_singleton.2 (.scalar rfl trivial)⟩)
  have renders : Renders (.object [("!type", .text "sensor"), ("limit", .integer 3)])
      (.mapping (keyed [("limit", .integer 3), ("!type", .text "sensor")])) :=
    .mapping rfl (.cons (.text "sensor") (.cons (.integer 3) .nil)) (.swap _ _ [])
  have absent : typeKey ∉ Dict.keys [("limit", integer 3)] := by decide
  obtain ⟨back, agree, typed⟩ := lossless
  have told := ((agree _ ordered).2 _ renders (.resource "sensor" [("limit", .int 3)])).2 rfl
  have tagged := typed (keyed [("limit", .integer 3)]) [] "sensor" (by decide)
    (List.forall_mem_append.2 ⟨untyped_keyed absent, List.forall_mem_nil _⟩)
  exact ⟨back sensor orderly taggable, told, tagged.trans told⟩

end YamlTree

end RestService
