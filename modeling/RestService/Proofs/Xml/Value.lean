import RestService.Proofs.Dict
import RestService.Proofs.Result
import RestService.Proofs.Xml.Assembly
import RestService.Xml.Value

set_option autoImplicit false

namespace RestService.XmlElement

open XmlEvent (Tight)

/-- The tag of a value among the items of a list. -/
def tagOf : Value → String
  | .resource typeName _ => typeName
  | _ => itemTag

/-- Values that can be told from the element with this name at this path. The items of a list take
their paths from `listPath`. -/
inductive Representable (hints : Hints) : (name path listPath : String) → Value → Prop
  | null {name path listPath : String} : Representable hints name path listPath .null
  | text {name path listPath s : String} (some : s ≠ "") (trimmed : Text.trim s = s) :
    Representable hints name path listPath (.text s)
  | resource {name path listPath typeName : String} {fields : Fields} (some : fields ≠ [])
    (sorted : Dict.Sorted fields) (single : hints.isSequence path = false)
    (typed : typeName = (hints.typeAt? path).getD name)
    (each : ∀ entry ∈ fields, Representable hints entry.1 (childPath path entry.1)
      (childPath path entry.1) entry.2) :
    Representable hints name path listPath (.resource typeName fields)
  | list {name path listPath : String} {items : List Value} (some : items ≠ [])
    (told : hints.isSequence path = true ∨ ¬(items.map tagOf).Nodup)
    (each : ∀ item ∈ items, Representable hints (tagOf item) (childPath listPath (tagOf item))
      (childPath listPath (tagOf item)) item) :
    Representable hints name path listPath (.list items)

theorem hasDuplicates_eq_false_iff {names : List String} :
    hasDuplicates names = false ↔ names.Nodup := by
  induction names with
  | nil => exact ⟨fun _ => List.nodup_nil, fun _ => rfl⟩
  | cons name names ih =>
    rw [hasDuplicates, Bool.or_eq_false_iff, List.nodup_cons, ih, ← Bool.not_eq_true,
      List.contains_iff_mem]

theorem ofFields_eq_mapM (fields : List (String × Value)) :
    ofFields fields = fields.mapM fun entry => ofValue entry.1 entry.2 := by
  induction fields with
  | nil => rfl
  | cons entry fields ih =>
    rw [ofFields, List.mapM_cons, ih]

theorem ofFields_eq_ok {fields : List (String × Value)} {elements : List XmlElement} :
    ofFields fields = .ok elements ↔
      List.Forall₂ (fun entry element => ofValue entry.1 entry.2 = .ok element)
        fields elements := by
  rw [ofFields_eq_mapM, Result.mapM_eq_ok]

/-- A list is written like the record of its items by their tags. -/
theorem ofFields_of_ofItems {parent : String} {items : List Value} {elements : List XmlElement}
    (made : ofItems parent items = .ok elements) :
    ofFields (items.map fun item => (tagOf item, item)) = .ok elements := by
  induction items generalizing elements with
  | nil => exact made
  | cons item items ih =>
    rw [ofItems] at made
    obtain ⟨name, named, more⟩ := Result.bind_eq_ok.1 made
    obtain ⟨element, here, more⟩ := Result.bind_eq_ok.1 more
    obtain ⟨rest, later, whole⟩ := Result.bind_eq_ok.1 more
    have tag : name = tagOf item := by
      cases item with
      | mapping => cases named
      | _ => exact (Except.ok.inj named).symm
    rw [← Except.ok.inj whole, ofFields_eq_ok, List.map_cons]
    exact .cons (tag ▸ here) (ofFields_eq_ok.1 (ih later))

theorem name_ofValue {name : String} {v : Value} {element : XmlElement}
    (made : ofValue name v = .ok element) : element.name = name := by
  unfold ofValue at made
  split at made
  · obtain ⟨children, -, rfl⟩ := Result.map_eq_ok.1 made
    rfl
  · obtain ⟨children, -, rfl⟩ := Result.map_eq_ok.1 made
    rfl
  · obtain ⟨children, -, rfl⟩ := Result.map_eq_ok.1 made
    rfl
  · rw [← Except.ok.inj made]
    rfl

/-- The children of an element go by the names of what they are made of. -/
theorem map_name_ofFields {fields : List (String × Value)} {elements : List XmlElement}
    (made : ofFields fields = .ok elements) :
    elements.map XmlElement.name = fields.map Prod.fst := by
  have each := ofFields_eq_ok.1 made
  clear made
  induction each with
  | nil => rfl
  | cons here _ ih => rw [List.map_cons, List.map_cons, name_ofValue here, ih]

/-- The children of an element are read as what they are made of, if each of them is. -/
theorem childValues_ofFields {hints : Hints} {path : String} {fields : List (String × Value)}
    {elements : List XmlElement} (made : ofFields fields = .ok elements)
    (each : ∀ entry ∈ fields, ∀ element, ofValue entry.1 entry.2 = .ok element →
      toValue hints (childPath path entry.1) (childPath path entry.1) element = entry.2) :
    childValues hints path elements = fields := by
  have all := ofFields_eq_ok.1 made
  clear made
  induction all with
  | nil => rfl
  | cons here _ ih =>
    obtain ⟨first, later⟩ := List.forall_mem_cons.1 each
    rw [childValues, name_ofValue here, first _ here, ih later]

theorem toValue_parent (hints : Hints) (path listPath name text : String)
    {children : List XmlElement} (some : children ≠ []) :
    toValue hints path listPath (node name text children) =
      if hasDuplicates (children.map XmlElement.name) || hints.isSequence path then
        .list ((childValues hints listPath children).map Prod.snd)
      else
        .resource ((hints.typeAt? path).getD name)
          (Dict.ofList (childValues hints path children)) := by
  cases children with
  | nil => exact absurd rfl some
  | cons child children =>
    rw [toValue]
    rfl

theorem ne_nil_of_ofFields {fields : List (String × Value)} {elements : List XmlElement}
    (made : ofFields fields = .ok elements) (some : fields ≠ []) : elements ≠ [] := by
  intro none
  have names := map_name_ofFields made
  rw [none, List.map_nil] at names
  exact some (List.map_eq_nil_iff.1 names.symm)

/-- The element of a value is read as the value. -/
theorem toValue_ofValue {hints : Hints} {name path listPath : String} {v : Value}
    (shaped : Representable hints name path listPath v) {element : XmlElement}
    (made : ofValue name v = .ok element) : toValue hints path listPath element = v := by
  induction shaped generalizing element with
  | null =>
    rw [← Except.ok.inj made]
    rfl
  | text some trimmed =>
    rw [← Except.ok.inj made]
    exact (if_neg (trimmed.symm ▸ some)).trans (congrArg Value.text trimmed)
  | @resource name path listPath typeName fields some sorted single typed each ih =>
    obtain ⟨children, inner, rfl⟩ := Result.map_eq_ok.1 made
    -- The names of fields differ, so nothing but a hint could make a list of them.
    have distinct : hasDuplicates (children.map XmlElement.name) = false := by
      rw [hasDuplicates_eq_false_iff, map_name_ofFields inner]
      exact Dict.nodup_keys sorted
    have read := childValues_ofFields inner fun entry mem element => ih entry mem
    rw [toValue_parent _ _ _ _ _ (ne_nil_of_ofFields inner some), distinct, single, read,
      Dict.ofList_of_sorted sorted, typed]
    rfl
  | @list name path listPath items some told each ih =>
    obtain ⟨children, listed, rfl⟩ := Result.map_eq_ok.1 made
    have inner := ofFields_of_ofItems listed
    have several :
        (hasDuplicates (children.map XmlElement.name) || hints.isSequence path) = true := by
      rw [map_name_ofFields inner, List.map_map, Bool.or_eq_true]
      rcases told with hinted | repeated
      · exact .inr hinted
      · refine .inl (Bool.of_not_eq_false fun distinct => repeated ?_)
        exact hasDuplicates_eq_false_iff.1 distinct
    have read : childValues hints listPath children = items.map fun item => (tagOf item, item) := by
      refine childValues_ofFields inner fun entry mem element here => ?_
      obtain ⟨item, inside, rfl⟩ := List.mem_map.1 mem
      exact ih item inside here
    have filled : items.map (fun item => (tagOf item, item)) ≠ [] := by simp [some]
    rw [toValue_parent _ _ _ _ _ (ne_nil_of_ofFields inner filled), if_pos several, read,
      List.map_map]
    exact congrArg Value.list (List.map_id items)

mutual

/-- The names of an element and of those inside it. -/
def names : XmlElement → List String
  | node name _ children => name :: namesAll children

def namesAll : List XmlElement → List String
  | [] => []
  | child :: children => names child ++ namesAll children

end

theorem mem_namesAll {children : List XmlElement} {child : XmlElement} (mem : child ∈ children)
    {name : String} (inside : name ∈ names child) : name ∈ namesAll children := by
  induction children with
  | nil => exact absurd mem List.not_mem_nil
  | cons first children ih =>
    rw [namesAll, List.mem_append]
    rcases List.mem_cons.1 mem with rfl | later
    · exact .inl inside
    · exact .inr (ih later)

/-- A parent is clean if what it is made of is. -/
theorem clean_of_ofFields {name : String} {fields : List (String × Value)}
    {children : List XmlElement} (made : ofFields fields = .ok children) (some : fields ≠ [])
    (plain : ∀ n ∈ names (node name "" children), isPlainName n = true)
    (each : ∀ entry ∈ fields, ∀ element, ofValue entry.1 entry.2 = .ok element →
      (∀ n ∈ names element, isPlainName n = true) → Clean element) :
    Clean (node name "" children) := by
  refine .parent (plain name (by rw [names]; exact List.mem_cons_self))
    (ne_nil_of_ofFields made some) fun child mem => ?_
  obtain ⟨entry, inside, here⟩ := Result.exists_of_mem_right (ofFields_eq_ok.1 made) mem
  refine each entry inside child here fun n within => plain n ?_
  rw [names]
  exact List.mem_cons_of_mem name (mem_namesAll mem within)

/-- The element of a value is read as it is written. -/
theorem clean_ofValue {hints : Hints} {name path listPath : String} {v : Value}
    (shaped : Representable hints name path listPath v) {element : XmlElement}
    (made : ofValue name v = .ok element) (plain : ∀ n ∈ names element, isPlainName n = true) :
    Clean element := by
  induction shaped generalizing element with
  | @null name =>
    rw [← Except.ok.inj made] at *
    exact .leaf (plain name (by rw [names]; exact List.mem_cons_self)) ⟨nofun, nofun⟩
  | @text name path listPath s some trimmed =>
    rw [← Except.ok.inj made] at *
    exact .leaf (plain name (by rw [names]; exact List.mem_cons_self))
      (XmlEvent.tight_of_trim trimmed)
  | resource some sorted single typed each ih =>
    obtain ⟨children, inner, rfl⟩ := Result.map_eq_ok.1 made
    exact clean_of_ofFields inner some plain fun entry mem element => ih entry mem
  | @list name path listPath items some told each ih =>
    obtain ⟨children, listed, rfl⟩ := Result.map_eq_ok.1 made
    refine clean_of_ofFields (ofFields_of_ofItems listed) (by simp [some]) plain
      fun entry mem element => ?_
    obtain ⟨item, inside, rfl⟩ := List.mem_map.1 mem
    exact ih item inside

end RestService.XmlElement
