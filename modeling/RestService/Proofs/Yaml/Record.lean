import RestService.Proofs.Dict
import RestService.Proofs.Resource.Value
import RestService.Proofs.Result
import RestService.Yaml.Value

set_option autoImplicit false

namespace RestService.YamlTree

/-- The record with one more entry. -/
def Record.put (r : Record) (name : String) (item : YamlTree) : Except ValueProblem Record :=
  if name = typeKey then
    match item with
    | .text typeName => .ok { r with typeName? := some typeName }
    | _ => .error .typeNotText
  else (YamlTree.toValue item).map fun v => { r with fields := Dict.insert r.fields name v }

theorem Record.put_type (r : Record) (typeName : String) :
    r.put typeKey (.text typeName) = .ok { r with typeName? := some typeName } :=
  if_pos rfl

theorem Record.put_illegal (r : Record) {item : YamlTree} (noText : ∀ s, item ≠ .text s) :
    r.put typeKey item = .error .typeNotText := by
  rw [Record.put, if_pos rfl]
  exact noText

/-- An entry for the type is a text, and changes nothing else. -/
theorem Record.put_type_eq_ok {r made : Record} {item : YamlTree} : r.put typeKey item = .ok made
    ↔ ∃ s, item = .text s ∧ { r with typeName? := some s } = made := by
  by_cases text : ∃ s, item = .text s
  · obtain ⟨s, rfl⟩ := text
    rw [put_type, Except.ok.injEq]
    constructor
    · intro same
      exact ⟨s, rfl, same⟩
    · rintro ⟨t, same, made⟩
      cases same
      exact made
  · rw [put_illegal r fun s same => text ⟨s, same⟩]
    constructor
    · intro same
      cases same
    · rintro ⟨s, same, -⟩
      exact absurd ⟨s, same⟩ text

theorem Record.put_field (r : Record) {name : String} (field : name ≠ typeKey) (item : YamlTree) :
    r.put name item
      = (YamlTree.toValue item).map fun v => { r with fields := Dict.insert r.fields name v } :=
  if_neg field

theorem recordFrom_cons (r : Record) (key item : YamlTree)
    (entries : List (YamlTree × YamlTree)) :
    recordFrom r ((key, item) :: entries)
      = keyText key >>= fun name => r.put name item >>= fun r => recordFrom r entries := by
  by_cases text : ∃ s, item = .text s
  · obtain ⟨s, rfl⟩ := text
    rw [recordFrom]
    refine bind_congr fun name => ?_
    by_cases isType : name = typeKey
    · subst isType
      rw [if_pos rfl, Record.put_type]
      rfl
    · rw [if_neg isType, Record.put_field r isType]
      rfl
  · have noText : ∀ s, item ≠ .text s := fun s same => text ⟨s, same⟩
    rw [recordFrom]
    · refine bind_congr fun name => ?_
      by_cases isType : name = typeKey
      · subst isType
        rw [if_pos rfl, Record.put_illegal r noText]
        rfl
      · rw [if_neg isType, Record.put_field r isType]
        cases toValue item <;> rfl
    · exact noText

theorem recordFrom_append (r : Record) (before after : List (YamlTree × YamlTree)) :
    recordFrom r (before ++ after) = recordFrom r before >>= fun r => recordFrom r after := by
  induction before generalizing r with
  | nil => rfl
  | cons entry before ih =>
    rw [List.cons_append, recordFrom_cons, recordFrom_cons, bind_assoc]
    refine bind_congr fun name => ?_
    rw [bind_assoc]
    exact bind_congr fun r => ih r

/-- Entries that do not name a type make the same fields in a record of any type. -/
theorem recordFrom_retyped {entries : List (YamlTree × YamlTree)}
    (untyped : ∀ entry ∈ entries, keyText entry.1 ≠ .ok typeKey) (r : Record)
    (typeName? : Option String) : recordFrom { r with typeName? } entries
      = (recordFrom r entries).map fun out => { out with typeName? } := by
  induction entries generalizing r with
  | nil => rfl
  | cons entry entries ih =>
    obtain ⟨key, item⟩ := entry
    obtain ⟨here, later⟩ := List.forall_mem_cons.1 untyped
    rw [recordFrom_cons, recordFrom_cons]
    cases text : keyText key with
    | error problem => rfl
    | ok name =>
      have field : name ≠ typeKey := fun same => here (same ▸ text)
      change (Record.put { r with typeName? } name item >>= _) = (r.put name item >>= _).map _
      rw [Record.put_field _ field, Record.put_field _ field]
      cases toValue item with
      | error problem => rfl
      | ok v => exact ih later { r with fields := Dict.insert r.fields name v }

/-- A text that can be the name of a tag. -/
def IsTag (s : String) : Prop := s ≠ "" ∧ s.toList.head? ≠ some '!'

instance (s : String) : Decidable (IsTag s) := inferInstanceAs (Decidable (_ ∧ _))

theorem typeOfTag_eq {s : String} (tag : IsTag s) : typeOfTag s = s := by
  have kept : s.toList.dropWhile (· == '!') = s.toList := by
    cases chars : s.toList with
    | nil => rfl
    | cons c cs =>
      have other : (c == '!') ≠ true := fun same =>
        tag.2 (by rw [chars, List.head?_cons, eq_of_beq same])
      exact List.dropWhile_cons_of_neg other
  rw [typeOfTag, kept, String.ofList_toList]

/-- The tag of a mapping says the same as an entry for its type, which may stand anywhere. -/
theorem toValue_tagged {before after : List (YamlTree × YamlTree)}
    (untyped : ∀ entry ∈ before ++ after, keyText entry.1 ≠ .ok typeKey) {typeName : String}
    (tag : IsTag typeName) : toValue (.tagged typeName (.mapping (before ++ after)))
      = toValue (.mapping (before ++ (.text typeKey, .text typeName) :: after)) := by
  rw [toValue, toValue, typeOfTag_eq tag, recordFrom_append, recordFrom_append]
  cases recordFrom {} before with
  | error problem => rfl
  | ok r =>
    have typed : recordFrom r ((.text typeKey, .text typeName) :: after)
        = (recordFrom r after).map fun out => { out with typeName? := some typeName } := by
      rw [recordFrom_cons, ← recordFrom_retyped (List.forall_mem_append.1 untyped).2]
      exact congrArg (· >>= fun r => recordFrom r after) (r.put_type typeName)
    change (recordFrom r after).map _
      = (recordFrom r ((.text typeKey, .text typeName) :: after)).map _
    rw [typed]
    cases recordFrom r after <;> rfl

/-- The entries for items with names, whose keys are texts. -/
def keyed (items : List (String × YamlTree)) : List (YamlTree × YamlTree) :=
  items.map fun (name, item) => (.text name, item)

theorem recordFrom_keyed_cons (r : Record) (name : String) (item : YamlTree)
    (items : List (String × YamlTree)) : recordFrom r (keyed ((name, item) :: items))
      = r.put name item >>= fun r => recordFrom r (keyed items) :=
  recordFrom_cons r (.text name) item (keyed items)

theorem untyped_keyed {items : List (String × YamlTree)} (absent : typeKey ∉ Dict.keys items) :
    ∀ entry ∈ keyed items, keyText entry.1 ≠ .ok typeKey := by
  intro entry mem same
  obtain ⟨⟨name, item⟩, inside, rfl⟩ := List.mem_map.1 mem
  exact absent (List.mem_map.2 ⟨(name, item), inside, Except.ok.inj same⟩)

/-- Of the items, the one named `!type` is the type, and the others become fields. -/
theorem recordFrom_keyed {items : List (String × YamlTree)} (nodup : (Dict.keys items).Nodup)
    {before after : Fields} {typeName? : Option String} :
    recordFrom ⟨none, before⟩ (keyed items) = .ok ⟨typeName?, after⟩
      ↔ Dict.get? items typeKey = typeName?.map YamlTree.text
        ∧ ∃ fields,
          Dict.Alike (fun node v => toValue node = .ok v) (Dict.erase items typeKey) fields
            ∧ Dict.extend before fields = after := by
  unfold Dict.Alike
  induction items generalizing before typeName? with
  | nil =>
    rw [Dict.get?_nil, Dict.erase, List.filter_nil]
    constructor
    · intro same
      cases same
      exact ⟨rfl, [], .nil, rfl⟩
    · rintro ⟨none, fields, ⟨⟩, rfl⟩
      rw [Option.map_eq_none_iff.1 none.symm]
      rfl
  | cons entry items ih =>
    obtain ⟨name, item⟩ := entry
    obtain ⟨fresh, tail⟩ := List.nodup_cons.1 nodup
    rw [recordFrom_keyed_cons]
    by_cases isType : name = typeKey
    · subst isType
      have absent : Dict.get? items typeKey = none := Dict.get?_eq_none_iff.2 fresh
      rw [Dict.get?_cons, if_pos rfl, Dict.erase_cons_self]
      by_cases text : ∃ s, item = .text s
      · obtain ⟨s, rfl⟩ := text
        rw [Record.put_type]
        -- The rest is read into a record with a type, and the hypothesis is about one without.
        change recordFrom ⟨some s, before⟩ (keyed items) = _ ↔ _
        rw [recordFrom_retyped (untyped_keyed fresh) ⟨none, before⟩ (some s), Result.map_eq_ok]
        constructor
        · rintro ⟨⟨other?, others⟩, later, whole⟩
          cases whole
          exact ⟨rfl, ((ih tail).1 later).2⟩
        · rintro ⟨named, made⟩
          obtain ⟨t, rfl, same⟩ := Option.map_eq_some_iff.1 named.symm
          cases same
          exact ⟨⟨none, after⟩, (ih tail).2 ⟨absent, made⟩, rfl⟩
      · rw [Record.put_illegal _ fun s same => text ⟨s, same⟩]
        constructor
        · rintro ⟨⟩
        · intro told
          obtain ⟨s, -, same⟩ := Option.map_eq_some_iff.1 told.1.symm
          exact absurd ⟨s, same.symm⟩ text
    · rw [Dict.get?_cons, if_neg fun same => isType same.symm, Dict.erase_cons_of_ne isType,
        Record.put_field _ isType]
      constructor
      · intro told
        obtain ⟨r, put, later⟩ := Result.bind_eq_ok.1 told
        obtain ⟨v, here, rfl⟩ := Result.map_eq_ok.1 put
        obtain ⟨named, fields, alike, made⟩ := (ih tail).1 later
        exact ⟨named, (name, v) :: fields, .cons ⟨rfl, here⟩ alike, made⟩
      · rintro ⟨named, fields, alike, made⟩
        obtain ⟨⟨_, v⟩, others, ⟨rfl, here⟩, more, rfl⟩ := List.forall₂_cons_left_iff.1 alike
        rw [here]
        exact (ih tail).2 ⟨named, others, more, made⟩

/-- Entries whose keys are texts make the same record in any order. -/
theorem recordFrom_keyed_of_perm {items : List (String × YamlTree)} {inOrder : Dict YamlTree}
    (sorted : Dict.Sorted inOrder) (perm : items.Perm inOrder) {typeName? : Option String}
    {fields : Fields} : recordFrom {} (keyed items) = .ok ⟨typeName?, fields⟩
      ↔ Dict.get? inOrder typeKey = typeName?.map YamlTree.text
        ∧ Dict.Alike (fun node v => toValue node = .ok v) (Dict.erase inOrder typeKey) fields := by
  have nodup : (Dict.keys items).Nodup :=
    (perm.map Prod.fst).nodup_iff.2 (Dict.nodup_keys sorted)
  have others : (Dict.erase items typeKey).Perm (Dict.erase inOrder typeKey) := perm.filter _
  have rest := Dict.sorted_erase sorted typeKey
  rw [recordFrom_keyed nodup, Dict.get?_of_perm nodup perm]
  -- Fields are put in as `items` come; their names differ, so the map is the same in the end.
  refine and_congr_right fun _ => ⟨?_, fun alike => ?_⟩
  · rintro ⟨unordered, alike, rfl⟩
    obtain ⟨ordered, here, same⟩ := List.perm_comp_forall₂ others.symm alike
    have alike : Dict.Alike (fun node v => toValue node = .ok v) (Dict.erase inOrder typeKey)
      ordered := here
    have made : Dict.extend [] unordered = ordered :=
      Dict.ofList_of_perm (alike.sorted rest) same.symm
    rw [made]
    exact alike
  · obtain ⟨unordered, here, same⟩ := List.perm_comp_forall₂ others alike
    exact ⟨unordered, here, Dict.ofList_of_perm (alike.sorted rest) same⟩

theorem induct {P : YamlTree → Prop} (null : P .null) (bool : ∀ b, P (.bool b))
    (integer : ∀ n, P (.integer n)) (float : ∀ x, P (.float x)) (text : ∀ s, P (.text s))
    (sequence : ∀ items, (∀ item ∈ items, P item) → P (.sequence items))
    (mapping : ∀ entries, (∀ entry ∈ entries, P entry.2) → P (.mapping entries))
    (tagged : ∀ tag content, P content → P (.tagged tag content)) (tree : YamlTree) : P tree :=
  YamlTree.rec (motive_1 := P) (motive_2 := fun items => ∀ item ∈ items, P item)
    (motive_3 := fun entries => ∀ entry ∈ entries, P entry.2) (motive_4 := fun entry => P entry.2)
    null bool integer float text sequence mapping tagged
    (List.forall_mem_nil _) (fun _ _ here later => List.forall_mem_cons.2 ⟨here, later⟩)
    (List.forall_mem_nil _) (fun _ _ here later => List.forall_mem_cons.2 ⟨here, later⟩)
    (fun _ _ _ here => here) tree

theorem itemValues_eq_ok {nodes : List YamlTree} {items : List Value} :
    itemValues nodes = .ok items
      ↔ List.Forall₂ (fun node v => toValue node = .ok v) nodes items := by
  have steps : itemValues nodes = nodes.mapM toValue := by
    induction nodes with
    | nil => rfl
    | cons node nodes ih => rw [itemValues, List.mapM_cons, ih]
  rw [steps, Result.mapM_eq_ok]

theorem ofItems_eq_ok {items : List Value} {nodes : List YamlTree} :
    ofItems items = .ok nodes
      ↔ List.Forall₂ (fun v node => ofValue v = .ok node) items nodes := by
  have steps : ofItems items = items.mapM ofValue := by
    induction items with
    | nil => rfl
    | cons v items ih => rw [ofItems, List.mapM_cons, ih]
  rw [steps, Result.mapM_eq_ok]

theorem exists_ofItems_iff {items : List Value} : (∃ nodes, ofItems items = .ok nodes)
    ↔ ∀ item ∈ items, ∃ node, ofValue item = .ok node :=
  (exists_congr fun _ => ofItems_eq_ok).trans Result.exists_forall₂_iff

theorem exists_ofFields_iff {fields : Fields} : (∃ entries, ofFields fields = .ok entries)
    ↔ ∀ entry ∈ fields, ∃ node, ofValue entry.2 = .ok node := by
  have steps : ofFields fields
      = fields.mapM fun entry => (ofValue entry.2).map fun node => (.text entry.1, node) := by
    induction fields with
    | nil => rfl
    | cons entry fields ih =>
      obtain ⟨name, v⟩ := entry
      rw [ofFields, List.mapM_cons, ih]
      cases ofValue v <;> rfl
  rw [steps]
  refine (exists_congr fun _ => Result.mapM_eq_ok).trans (Result.exists_forall₂_iff.trans ?_)
  exact forall₂_congr fun _ _ => Result.exists_map_eq_ok

/-- The fields of a record are in order, none is in the place of its type, and so it is inside. -/
structure Record.Orderly (r : Record) : Prop where
  sorted : Dict.Sorted r.fields
  untyped : typeKey ∉ Dict.keys r.fields
  each : ∀ entry ∈ r.fields, entry.2.Orderly

theorem Record.Orderly.put {r made : Record} {name : String} {item : YamlTree}
    (orderly : r.Orderly) (inner : ∀ v, item.toValue = .ok v → v.Orderly)
    (put : r.put name item = .ok made) : made.Orderly := by
  obtain ⟨sorted, untyped, each⟩ := orderly
  by_cases isType : name = typeKey
  · subst isType
    obtain ⟨s, -, rfl⟩ := put_type_eq_ok.1 put
    exact ⟨sorted, untyped, each⟩
  · rw [put_field r isType] at put
    obtain ⟨v, here, rfl⟩ := Result.map_eq_ok.1 put
    have free := Dict.not_mem_keys_insert untyped (Ne.symm isType) v
    refine ⟨Dict.sorted_insert sorted name v, free, fun entry mem => ?_⟩
    rcases Dict.mem_insert mem with rfl | old
    · exact inner v here
    · exact each entry old

/-- Whatever the entries of a mapping are, one named `!type` is never a field. -/
theorem Record.Orderly.recordFrom {r made : Record} {entries : List (YamlTree × YamlTree)}
    (orderly : r.Orderly) (inner : ∀ entry ∈ entries, ∀ v, entry.2.toValue = .ok v → v.Orderly)
    (told : recordFrom r entries = .ok made) : made.Orderly := by
  induction entries generalizing r with
  | nil =>
    cases told
    exact orderly
  | cons entry entries ih =>
    obtain ⟨here, later⟩ := List.forall_mem_cons.1 inner
    rw [recordFrom_cons] at told
    obtain ⟨name, -, more⟩ := Result.bind_eq_ok.1 told
    obtain ⟨next, put, rest⟩ := Result.bind_eq_ok.1 more
    exact ih (orderly.put here put) later rest

theorem Record.orderly_toValue {r : Record} : r.toValue.Orderly ↔ r.Orderly := by
  obtain ⟨typeName?, fields⟩ := r
  cases typeName? with
  | none =>
    refine Value.everywhere_mapping.trans ⟨?_, fun r => ⟨⟨r.sorted, r.untyped⟩, r.each⟩⟩
    exact fun ⟨⟨sorted, untyped⟩, each⟩ => ⟨sorted, untyped, each⟩
  | some typeName =>
    refine Value.everywhere_resource.trans ⟨?_, fun r => ⟨⟨r.sorted, r.untyped⟩, r.each⟩⟩
    exact fun ⟨⟨sorted, untyped⟩, each⟩ => ⟨sorted, untyped, each⟩

/-- What a document says is in order. -/
theorem orderly_of_toValue {tree : YamlTree} {v : Value} (told : toValue tree = .ok v) :
    v.Orderly := by
  induction tree using induct generalizing v with
  | null | bool b | float x | text s =>
    cases told
    exact .scalar rfl trivial
  | integer n =>
    rw [toValue] at told
    split at told <;> cases told <;> exact .scalar rfl trivial
  | sequence items ih =>
    rw [toValue] at told
    obtain ⟨vs, each, rfl⟩ := Result.map_eq_ok.1 told
    refine .list trivial fun v mem => ?_
    obtain ⟨item, inside, here⟩ := Result.exists_of_mem_right (itemValues_eq_ok.1 each) mem
    exact ih item inside here
  | mapping entries ih =>
    rw [toValue] at told
    obtain ⟨r, made, rfl⟩ := Result.map_eq_ok.1 told
    have empty : Record.Orderly {} := ⟨.nil, List.not_mem_nil, List.forall_mem_nil _⟩
    exact Record.orderly_toValue.2 (empty.recordFrom (fun entry mem v => ih entry mem) made)
  | tagged tag content ih =>
    cases content with
    | mapping entries =>
      rw [toValue] at told
      obtain ⟨r, made, rfl⟩ := Result.map_eq_ok.1 told
      -- The content on its own is a record with the same fields, of another type or of none.
      have untagged : toValue (.mapping entries) = .ok r.toValue := by
        rw [toValue, made]
        rfl
      obtain ⟨sorted, untyped, each⟩ := Record.orderly_toValue.1 (ih untagged)
      exact .resource ⟨sorted, untyped⟩ each
    | null =>
      cases told
      exact .resource ⟨.nil, List.not_mem_nil⟩ (List.forall_mem_nil _)
    | _ => cases told

theorem orderly_of_parseBody {charset? : Option String} {body : ByteArray} {v : Value}
    (parsed : parseBody charset? body = .ok v) : v.Orderly := by
  obtain ⟨text, -, more⟩ := Result.bind_eq_ok.1 parsed
  split at more
  · cases more
  · split at more
    · cases more
    · rename_i told
      cases more
      exact orderly_of_toValue told

end RestService.YamlTree
