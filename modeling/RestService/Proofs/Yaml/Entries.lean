import RestService.Proofs.Yaml.Record

set_option autoImplicit false

namespace RestService

/-- A step from a node to one inside it: to an item of a list, or to what a field holds. -/
inductive TreeStep
  | item (place : ℕ)
  | field (name : String)

/-- The fields of a record, with a type or without. -/
def Value.fields? : Value → Option Fields
  | .mapping fields | .resource _ fields => some fields
  | _ => none

/-- The value that a step leads to. -/
def Value.inner? : Value → TreeStep → Option Value
  | .list items, .item place => items[place]?
  | v, .field name => v.fields?.bind fun fields => Dict.get? fields name
  | _, .item _ => none

/-- The value at the end of a path. -/
def Value.at? (v : Value) (path : List TreeStep) : Option Value := path.foldlM Value.inner? v

namespace YamlTree

/-- The entries of a mapping, with a tag or without. -/
def entries? : YamlTree → Option (List (YamlTree × YamlTree))
  | .mapping entries | .tagged _ (.mapping entries) => some entries
  | _ => none

def named (entries : List (YamlTree × YamlTree)) (name : String) : List (YamlTree × YamlTree) :=
  entries.filter fun entry => (keyText entry.1).toOption = some name

/-- The entries that do not name the type of the record. -/
def fieldEntries (entries : List (YamlTree × YamlTree)) : List (YamlTree × YamlTree) :=
  entries.filter fun entry => (keyText entry.1).toOption ≠ some typeKey

/-- The texts of the keys of these entries. -/
def fieldNames (entries : List (YamlTree × YamlTree)) : List String :=
  (fieldEntries entries).filterMap fun entry => (keyText entry.1).toOption

/-- The item of the only entry whose key has the text of a field. -/
def soleItem? (entries : List (YamlTree × YamlTree)) (name : String) : Option YamlTree :=
  if name = typeKey then none
  else
    match named entries name with
    | [entry] => some entry.2
    | _ => none

/-- The node that a step leads to, unless several entries stand where it leads. -/
def inner? : YamlTree → TreeStep → Option YamlTree
  | .sequence items, .item place => items[place]?
  | node, .field name => node.entries?.bind fun entries => soleItem? entries name
  | _, .item _ => none

/-- The node at the end of a path. -/
def at? (tree : YamlTree) (path : List TreeStep) : Option YamlTree := path.foldlM inner? tree

/-- An entry becomes a field. -/
def IsFieldOf (entry : YamlTree × YamlTree) (field : String × Value) : Prop :=
  keyText entry.1 = .ok field.1 ∧ toValue entry.2 = .ok field.2

/-- A record of some fields keeps the entries of a mapping. -/
structure Keeps (entries : List (YamlTree × YamlTree)) (fields : Fields) : Prop where
  /-- The item of an entry that shares the text of its key with no other becomes a field. -/
  sole : ∀ name item, soleItem? entries name = some item →
    ∃ v, Dict.get? fields name = some v ∧ toValue item = .ok v
  /-- Every field comes from an entry. -/
  origin : ∀ name v, Dict.get? fields name = some v →
    ∃ entry ∈ fieldEntries entries, IsFieldOf entry (name, v)
  /-- There are as many fields as entries if no two have the same text. -/
  length : (fieldNames entries).Nodup → fields.length = (fieldEntries entries).length

/-- The type of the record that a mapping becomes: that of the tag, or else that of the only entry
for it, or else none. -/
structure TypedBy (node : YamlTree) (entries : List (YamlTree × YamlTree)) (v : Value)
    (fields : Fields) : Prop where
  tag : ∀ tag, node = .tagged tag (.mapping entries) → v = .resource (typeOfTag tag) fields
  entry : ∀ entry, node = .mapping entries → named entries typeKey = [entry] →
    ∃ typeName, entry.2 = .text typeName ∧ v = .resource typeName fields
  untyped : node = .mapping entries → named entries typeKey = [] → v = .mapping fields

section Fields

variable {entries : List (YamlTree × YamlTree)}

theorem mem_named {entry : YamlTree × YamlTree} {name : String} :
    entry ∈ named entries name ↔ entry ∈ entries ∧ keyText entry.1 = .ok name := by
  rw [named, List.mem_filter, decide_eq_true_eq, Result.toOption_eq_some]

theorem named_eq_nil_iff {name : String} :
    named entries name = [] ↔ ∀ entry ∈ entries, keyText entry.1 ≠ .ok name := by
  rw [List.eq_nil_iff_forall_not_mem]
  simp only [mem_named, not_and, ne_eq]

theorem mem_fieldEntries {entry : YamlTree × YamlTree} :
    entry ∈ fieldEntries entries ↔ entry ∈ entries ∧ keyText entry.1 ≠ .ok typeKey := by
  rw [fieldEntries, List.mem_filter, decide_eq_true_eq, ne_eq, Result.toOption_eq_some]

theorem soleItem?_eq_some {name : String} {item : YamlTree}
    (sole : soleItem? entries name = some item) :
    name ≠ typeKey ∧ ∃ key, named entries name = [(key, item)] := by
  unfold soleItem? at sole
  split at sole
  · cases sole
  · rename_i field
    split at sole
    · rename_i entry only
      cases sole
      exact ⟨field, entry.1, only⟩
    · cases sole

/-- The fields are what the entries become, put in one after the other. -/
theorem exists_extend_of_recordFrom {r made : Record} (told : recordFrom r entries = .ok made) :
    ∃ pairs, List.Forall₂ IsFieldOf (fieldEntries entries) pairs
      ∧ made.fields = Dict.extend r.fields pairs := by
  induction entries generalizing r with
  | nil =>
    cases told
    exact ⟨[], .nil, rfl⟩
  | cons entry entries ih =>
    obtain ⟨key, item⟩ := entry
    rw [recordFrom_cons] at told
    obtain ⟨name, text, more⟩ := Result.bind_eq_ok.1 told
    obtain ⟨next, put, later⟩ := Result.bind_eq_ok.1 more
    obtain ⟨pairs, each, made⟩ := ih later
    by_cases isType : name = typeKey
    · subst isType
      have skipped : fieldEntries ((key, item) :: entries) = fieldEntries entries :=
        List.filter_cons_of_neg (by simp [text, Except.toOption])
      obtain ⟨s, -, rfl⟩ := Record.put_type_eq_ok.1 put
      rw [skipped]
      exact ⟨pairs, each, made⟩
    · have taken : fieldEntries ((key, item) :: entries) = (key, item) :: fieldEntries entries :=
        List.filter_cons_of_pos (by simp [text, Except.toOption, isType])
      rw [Record.put_field r isType] at put
      obtain ⟨v, here, rfl⟩ := Result.map_eq_ok.1 put
      rw [taken]
      exact ⟨(name, v) :: pairs, .cons ⟨text, here⟩ each, made⟩

variable {pairs : List (String × Value)}

theorem keys_eq_fieldNames (each : List.Forall₂ IsFieldOf (fieldEntries entries) pairs) :
    Dict.keys pairs = fieldNames entries := by
  unfold fieldNames
  generalize fieldEntries entries = fields at each ⊢
  induction each with
  | nil => rfl
  | @cons entry _ _ _ here _ ih =>
    have text := Result.toOption_eq_some.2 here.1
    simp only [List.filterMap_cons, text, ← ih]
    rfl

theorem exists_entry_of_get? (each : List.Forall₂ IsFieldOf (fieldEntries entries) pairs)
    {name : String} {v : Value} (found : Dict.get? (Dict.ofList pairs) name = some v) :
    ∃ entry ∈ fieldEntries entries, IsFieldOf entry (name, v) := by
  have inside := Dict.mem_of_mem_ofList (Dict.mem_of_get? found)
  exact Result.exists_of_mem_right each inside

/-- There is a field of the name, and no other entry than this one can have made it. -/
theorem exists_get?_of_sole (each : List.Forall₂ IsFieldOf (fieldEntries entries) pairs)
    {name : String} {item : YamlTree} (sole : soleItem? entries name = some item) :
    ∃ v, Dict.get? (Dict.ofList pairs) name = some v ∧ toValue item = .ok v := by
  obtain ⟨field, key, only⟩ := soleItem?_eq_some sole
  have mem : (key, item) ∈ named entries name := only ▸ List.mem_singleton_self _
  obtain ⟨inside, text⟩ := mem_named.1 mem
  have isField : (key, item) ∈ fieldEntries entries :=
    mem_fieldEntries.2 ⟨inside, fun same => field (Except.ok.inj (text.symm.trans same))⟩
  obtain ⟨pair, paired, made⟩ := Result.exists_of_mem_left each isField
  obtain rfl : name = pair.1 := Except.ok.inj (text.symm.trans made.1)
  have listed : pair.1 ∈ Dict.keys (Dict.ofList pairs) := by
    rw [(Dict.perm_keys_ofList pairs).mem_iff, List.mem_dedup]
    exact List.mem_map_of_mem paired
  obtain ⟨v, found⟩ := Dict.get?_isSome_of_mem_keys listed
  obtain ⟨other, otherMem, otherText, value⟩ := exists_entry_of_get? each found
  have same : other ∈ named entries pair.1 :=
    mem_named.2 ⟨(mem_fieldEntries.1 otherMem).1, otherText⟩
  rw [only, List.mem_singleton] at same
  subst same
  exact ⟨v, found, value⟩

theorem length_ofList (each : List.Forall₂ IsFieldOf (fieldEntries entries) pairs)
    (nodup : (fieldNames entries).Nodup) :
    (Dict.ofList pairs).length = (fieldEntries entries).length := by
  have perm := Dict.perm_keys_ofList pairs
  rw [keys_eq_fieldNames each, List.dedup_eq_self.2 nodup, ← keys_eq_fieldNames each] at perm
  calc
    (Dict.ofList pairs).length = (Dict.keys (Dict.ofList pairs)).length :=
      (List.length_map _).symm
    _ = (Dict.keys pairs).length := perm.length_eq
    _ = pairs.length := List.length_map _
    _ = (fieldEntries entries).length := each.length_eq.symm

/-- What a mapping is read into keeps its entries. -/
theorem keeps_of_recordFrom {made : Record} (told : recordFrom {} entries = .ok made) :
    Keeps entries made.fields := by
  obtain ⟨pairs, each, whole⟩ := exists_extend_of_recordFrom told
  have fields : made.fields = Dict.ofList pairs := whole
  rw [fields]
  exact ⟨fun _ _ => exists_get?_of_sole each, fun _ _ => exists_entry_of_get? each,
    length_ofList each⟩

end Fields

section Types

variable {entries : List (YamlTree × YamlTree)}

/-- Entries that do not name the type leave it. -/
theorem typeName?_of_recordFrom {r made : Record}
    (untyped : ∀ entry ∈ entries, keyText entry.1 ≠ .ok typeKey)
    (told : recordFrom r entries = .ok made) : made.typeName? = r.typeName? := by
  have same := recordFrom_retyped untyped r r.typeName?
  change recordFrom r entries = _ at same
  rw [told] at same
  have retyped : made = ⟨r.typeName?, made.fields⟩ := Except.ok.inj same
  rw [retyped]

/-- The only entry that names the type tells it. -/
theorem exists_typeName_of_recordFrom {made : Record} {entry : YamlTree × YamlTree}
    (only : named entries typeKey = [entry]) (told : recordFrom {} entries = .ok made) :
    ∃ typeName, entry.2 = .text typeName ∧ made.typeName? = some typeName := by
  obtain ⟨before, after, rfl, -, isType, others⟩ := List.filter_eq_cons_iff.1 only
  rw [decide_eq_true_eq, Result.toOption_eq_some] at isType
  have untyped : ∀ entry ∈ after, keyText entry.1 ≠ .ok typeKey := named_eq_nil_iff.1 others
  rw [recordFrom_append] at told
  obtain ⟨r, -, more⟩ := Result.bind_eq_ok.1 told
  rw [recordFrom_cons] at more
  obtain ⟨name, text, more⟩ := Result.bind_eq_ok.1 more
  obtain rfl : name = typeKey := Except.ok.inj (text.symm.trans isType)
  obtain ⟨typed, put, later⟩ := Result.bind_eq_ok.1 more
  obtain ⟨s, isText, rfl⟩ := Record.put_type_eq_ok.1 put
  exact ⟨s, isText, typeName?_of_recordFrom untyped later⟩

/-- Without a tag, what a mapping is read into has the type of its entry for it. -/
theorem typedBy_of_recordFrom {made : Record} (told : recordFrom {} entries = .ok made) :
    TypedBy (.mapping entries) entries made.toValue made.fields := by
  refine ⟨?_, fun entry _ only => ?_, fun _ none => ?_⟩
  · rintro tag ⟨⟩
  · obtain ⟨typeName, text, typed⟩ := exists_typeName_of_recordFrom only told
    exact ⟨typeName, text, by rw [Record.toValue, typed]⟩
  · rw [Record.toValue, typeName?_of_recordFrom (named_eq_nil_iff.1 none) told]

end Types

/-- A mapping that is read becomes a record that keeps its entries and has its type. -/
theorem exists_keeps_of_toValue {node : YamlTree} {v : Value} (told : toValue node = .ok v)
    {entries : List (YamlTree × YamlTree)} (mapping : node.entries? = some entries) :
    ∃ fields, v.fields? = some fields ∧ Keeps entries fields ∧ TypedBy node entries v fields := by
  unfold entries? at mapping
  split at mapping
  · cases mapping
    rw [toValue] at told
    obtain ⟨r, made, rfl⟩ := Result.map_eq_ok.1 told
    have fields : r.toValue.fields? = some r.fields := by
      obtain ⟨typeName?, fields⟩ := r
      cases typeName? <;> rfl
    exact ⟨r.fields, fields, keeps_of_recordFrom made, typedBy_of_recordFrom made⟩
  · cases mapping
    rw [toValue] at told
    obtain ⟨r, made, rfl⟩ := Result.map_eq_ok.1 told
    refine ⟨r.fields, rfl, keeps_of_recordFrom made, ?_, ?_, ?_⟩
    · rintro tag ⟨⟩
      rfl
    · rintro entry ⟨⟩
    · rintro ⟨⟩
  · cases mapping

/-- A step inside a document has its counterpart inside the value. -/
theorem exists_inner?_of_toValue {node inside : YamlTree} {v : Value} (told : toValue node = .ok v)
    {step : TreeStep} (leads : node.inner? step = some inside) :
    ∃ w, v.inner? step = some w ∧ toValue inside = .ok w := by
  unfold inner? at leads
  split at leads
  · rw [toValue] at told
    obtain ⟨values, each, rfl⟩ := Result.map_eq_ok.1 told
    exact Result.exists_getElem?_right (itemValues_eq_ok.1 each) leads
  · obtain ⟨entries, mapping, sole⟩ := Option.bind_eq_some_iff.1 leads
    obtain ⟨fields, isRecord, keeps, -⟩ := exists_keeps_of_toValue told mapping
    obtain ⟨w, found, value⟩ := keeps.sole _ _ sole
    refine ⟨w, ?_, value⟩
    cases v <;> simp_all [Value.inner?, Value.fields?]
  · cases leads

theorem exists_at?_of_toValue {tree node : YamlTree} {v : Value} (told : toValue tree = .ok v)
    {path : List TreeStep} (leads : tree.at? path = some node) :
    ∃ w, v.at? path = some w ∧ toValue node = .ok w := by
  unfold at? at leads
  unfold Value.at?
  induction path generalizing tree v with
  | nil =>
    cases leads
    exact ⟨v, rfl, told⟩
  | cons step path ih =>
    rw [List.foldlM_cons] at leads
    obtain ⟨inside, first, later⟩ := Option.bind_eq_some_iff.1 leads
    obtain ⟨w, here, value⟩ := exists_inner?_of_toValue told first
    rw [List.foldlM_cons, here]
    exact ih value later

/-- Where a document that can be read has a mapping, its value has a record that keeps the entries
of the mapping and has its type. -/
theorem entries_kept {tree : YamlTree} {v : Value} (told : toValue tree = .ok v)
    {path : List TreeStep} {node : YamlTree} (leads : tree.at? path = some node)
    {entries : List (YamlTree × YamlTree)} (mapping : node.entries? = some entries) :
    ∃ w fields, v.at? path = some w ∧ w.fields? = some fields ∧ Keeps entries fields
      ∧ TypedBy node entries w fields := by
  obtain ⟨w, found, value⟩ := exists_at?_of_toValue told leads
  obtain ⟨fields, isRecord, keeps, typed⟩ := exists_keeps_of_toValue value mapping
  exact ⟨w, fields, found, isRecord, keeps, typed⟩

/-- A book with a list under a key that is no text, and an entry for the type of what is in it. -/
def book : YamlTree :=
  .tagged "book" (.mapping [(.text "title", .text "Dune"),
    (.bool true, .sequence [.mapping [(.text "!type", .text "review"), (.integer 1, .null)]])])

theorem entries_kept_book :
    toValue book = .ok (.resource "book" [("title", .text "Dune"),
      ("true", .list [.resource "review" [("1", .null)]])])
    ∧ book.at? [.field "true", .item 0]
      = some (.mapping [(.text "!type", .text "review"), (.integer 1, .null)])
    ∧ ∃ (w : Value) (fields : Fields), w.fields? = some fields ∧ w = .resource "review" fields
      ∧ fields.length = 1
      ∧ ∃ v, Dict.get? fields "1" = some v ∧ toValue .null = .ok v := by
  have told : toValue book = .ok (.resource "book" [("title", .text "Dune"),
      ("true", .list [.resource "review" [("1", .null)]])]) := rfl
  have leads : book.at? [.field "true", .item 0]
      = some (.mapping [(.text "!type", .text "review"), (.integer 1, .null)]) := rfl
  obtain ⟨w, fields, -, isRecord, keeps, typed⟩ := entries_kept told leads rfl
  obtain ⟨typeName, text, isReview⟩ := typed.entry _ rfl rfl
  cases text
  exact ⟨told, leads, w, fields, isRecord, isReview, keeps.length (by decide),
    keeps.sole "1" .null rfl⟩

/-- Keys that differ may have one text, and of their entries only the last becomes a field. A tag
goes before an entry for the type. -/
theorem exists_entry_lost :
    (¬∀ entries v fields, (entries.map Prod.fst).Nodup → toValue (.mapping entries) = .ok v →
      v.fields? = some fields → fields.length = (fieldEntries entries).length)
    ∧ ¬∀ tag typeName v,
      toValue (.tagged tag (.mapping [(.text typeKey, .text typeName)])) = .ok v →
        typeOfTag tag = typeName := by
  constructor
  · intro all
    have differ :
        ([(integer 1, text "Dune"), (text "1", text "Emma")].map Prod.fst).Nodup := by
      simp
    have read : toValue (.mapping [(.integer 1, .text "Dune"), (.text "1", .text "Emma")])
        = .ok (.mapping [("1", .text "Emma")]) := rfl
    have kept := all _ _ _ differ read rfl
    exact absurd kept (by decide)
  · intro all
    have read : toValue (.tagged "book" (.mapping [(.text typeKey, .text "novel")]))
        = .ok (.resource "book" []) := rfl
    exact absurd (all _ _ _ read) (by decide)

end YamlTree

end RestService
