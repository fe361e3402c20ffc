import Mathlib.Data.List.Dedup
import Mathlib.Data.List.Forall2
import Mathlib.Data.List.Perm.Basic
import RestService.Dict

set_option autoImplicit false

namespace RestService.Dict

variable {α β : Type}

instance (d : Dict α) : Decidable (Sorted d) := inferInstanceAs (Decidable (List.Pairwise _ d))

theorem get?_eq_none_iff {d : Dict α} {key : String} : get? d key = none ↔ key ∉ keys d := by
  induction d with
  | nil => exact ⟨fun _ mem => absurd mem List.not_mem_nil, fun _ => rfl⟩
  | cons entry rest ih =>
    obtain ⟨k, v⟩ := entry
    rw [get?_cons, keys, List.map_cons, List.mem_cons, not_or]
    by_cases same : key = k
    · rw [if_pos same]
      exact ⟨fun absent => (nomatch absent), fun absent => absurd same absent.1⟩
    · rw [if_neg same, ih]
      exact ⟨fun absent => ⟨same, absent⟩, fun absent => absent.2⟩

theorem mem_of_get? {d : Dict α} {key : String} {v : α} (found : get? d key = some v) :
    (key, v) ∈ d := by
  induction d with
  | nil => cases found
  | cons entry rest ih =>
    obtain ⟨k, w⟩ := entry
    rw [get?_cons] at found
    split at found
    · rename_i same
      rw [same, ← Option.some.inj found]
      exact List.mem_cons_self
    · exact List.mem_cons_of_mem _ (ih found)

theorem get?_isSome_of_mem_keys {d : Dict α} {key : String} (mem : key ∈ keys d) :
    ∃ v, get? d key = some v := by
  cases found : get? d key with
  | none => exact absurd mem (get?_eq_none_iff.1 found)
  | some v => exact ⟨v, rfl⟩

theorem get?_eq_none_of_lt {d : Dict α} {key : String} (above : ∀ entry ∈ d, key < entry.1) :
    get? d key = none := by
  rw [get?_eq_none_iff]
  intro mem
  obtain ⟨entry, inside, same⟩ := List.mem_map.1 mem
  exact absurd (above entry inside) (same ▸ String.lt_irrefl key)

theorem get?_of_mem {d : Dict α} (sorted : Sorted d) {key : String} {v : α} (mem : (key, v) ∈ d) :
    get? d key = some v := by
  induction d with
  | nil => exact absurd mem List.not_mem_nil
  | cons entry rest ih =>
    obtain ⟨k, w⟩ := entry
    obtain ⟨above, tail⟩ := List.pairwise_cons.1 sorted
    rw [get?_cons]
    rcases List.mem_cons.1 mem with here | later
    · cases here
      rw [if_pos rfl]
    · have ne : key ≠ k := fun same => absurd (above _ later) (same ▸ String.lt_irrefl key)
      rw [if_neg ne, ih tail later]

theorem mem_of_mem_extend {d : Dict α} {pairs : List (String × α)} {entry : String × α}
    (mem : entry ∈ extend d pairs) : entry ∈ d ∨ entry ∈ pairs := by
  induction pairs generalizing d with
  | nil => exact .inl mem
  | cons first rest ih =>
    rcases ih mem with inserted | later
    · rcases mem_insert inserted with rfl | old
      · exact .inr List.mem_cons_self
      · exact .inl old
    · exact .inr (List.mem_cons_of_mem _ later)

theorem mem_of_mem_ofList {pairs : List (String × α)} {entry : String × α}
    (mem : entry ∈ ofList pairs) : entry ∈ pairs := by
  rcases mem_of_mem_extend (d := []) mem with none | found
  · exact absurd none List.not_mem_nil
  · exact found

theorem get?_append (first second : List (String × α)) (key : String) :
    get? (first ++ second) key = (get? first key).or (get? second key) := by
  induction first with
  | nil => rfl
  | cons entry rest ih =>
    obtain ⟨k, v⟩ := entry
    rw [List.cons_append, get?_cons, get?_cons]
    split
    · rfl
    · exact ih

/-- The last of the pairs that have a key tells its value. -/
theorem get?_extend (d : Dict α) (pairs : List (String × α)) (key : String) :
    get? (extend d pairs) key = (get? pairs.reverse key).or (get? d key) := by
  induction pairs generalizing d with
  | nil => rfl
  | cons entry rest ih =>
    change get? (extend (insert d entry.1 entry.2) rest) key = _
    rw [ih, List.reverse_cons, get?_append, get?_insert, get?_cons, Option.or_assoc]
    split <;> rfl

theorem get?_ofList (pairs : List (String × α)) (key : String) :
    get? (ofList pairs) key = get? pairs.reverse key :=
  (get?_extend [] pairs key).trans (Option.or_none)

theorem nodup_keys {d : Dict α} (sorted : Sorted d) : (keys d).Nodup := by
  rw [keys, List.Nodup, List.pairwise_map]
  exact sorted.imp Std.ne_of_lt

/-- The keys of the map of some pairs are those of the pairs, each once. -/
theorem perm_keys_ofList (pairs : List (String × α)) :
    (keys (ofList pairs)).Perm (keys pairs).dedup := by
  refine (List.perm_ext_iff_of_nodup (nodup_keys (sorted_ofList pairs)) (List.nodup_dedup _)).2 ?_
  intro key
  have same : get? (ofList pairs) key = none ↔ get? pairs.reverse key = none := by
    rw [get?_ofList]
  rw [get?_eq_none_iff, get?_eq_none_iff, not_iff_not] at same
  rw [same, List.mem_dedup, keys, List.map_reverse, List.mem_reverse, keys]

/-- The order of pairs does not matter for the look-up as long as their keys differ. -/
theorem get?_of_perm {d e : List (String × α)} (nodup : (keys d).Nodup) (perm : d.Perm e)
    (key : String) : get? d key = get? e key := by
  induction perm with
  | nil => rfl
  | cons entry _ ih => rw [get?_cons, get?_cons, ih (List.nodup_cons.1 nodup).2]
  | swap first second rest =>
    have apart : second.1 ≠ first.1 := fun same =>
      (List.nodup_cons.1 nodup).1 (same ▸ List.mem_cons_self)
    rw [get?_cons, get?_cons, get?_cons, get?_cons]
    by_cases found : key = second.1
    · rw [if_pos found, if_neg (found ▸ apart), if_pos found]
    · rw [if_neg found, if_neg found]
  | trans left _ first second =>
    exact (first nodup).trans (second ((left.map Prod.fst).nodup_iff.1 nodup))

theorem get?_ofList_of_nodup {pairs : List (String × α)} (nodup : (keys pairs).Nodup)
    (key : String) : get? (ofList pairs) key = get? pairs key := by
  rw [get?_ofList, get?_of_perm nodup pairs.reverse_perm.symm]

/-- Where no key comes twice, a look-up finds what is listed. -/
theorem get?_eq_some_iff_mem {pairs : List (String × α)} (nodup : (keys pairs).Nodup) {key : String}
    {value : α} : get? pairs key = some value ↔ (key, value) ∈ pairs := by
  refine ⟨mem_of_get?, fun mem => ?_⟩
  obtain ⟨before, after, rfl⟩ := List.append_of_mem mem
  have fresh : key ∉ keys before := by
    rw [keys, List.map_append] at nodup
    exact fun inside => (List.nodup_append.1 nodup).2.2 key inside key List.mem_cons_self rfl
  rw [get?_append, get?_eq_none_iff.2 fresh, Option.none_or, get?_cons, if_pos rfl]

/-- Maps in ascending order are told apart by a look-up. -/
theorem ext {d e : Dict α} (sorted : Sorted d) (other : Sorted e)
    (same : ∀ key, get? d key = get? e key) : d = e := by
  induction d generalizing e with
  | nil =>
    cases e with
    | nil => rfl
    | cons entry rest =>
      have look := same entry.1
      rw [get?_nil, get?_cons, if_pos rfl] at look
      cases look
  | cons entry rest ih =>
    obtain ⟨k, v⟩ := entry
    cases e with
    | nil =>
      have look := same k
      rw [get?_nil, get?_cons, if_pos rfl] at look
      cases look
    | cons second more =>
      obtain ⟨l, w⟩ := second
      obtain ⟨above, tail⟩ := List.pairwise_cons.1 sorted
      obtain ⟨beyond, end'⟩ := List.pairwise_cons.1 other
      have first : k = l := by
        rcases Std.lt_trichotomy k l with less | equal | greater
        · have look := same k
          rw [get?_cons, if_pos rfl, get?_cons, if_neg (Std.ne_of_lt less),
            get?_eq_none_of_lt fun entry mem => String.lt_trans less (beyond entry mem)] at look
          cases look
        · exact equal
        · have look := same l
          rw [get?_cons, get?_cons, if_pos rfl, if_neg (Std.ne_of_lt greater),
            get?_eq_none_of_lt fun entry mem => String.lt_trans greater (above entry mem)] at look
          cases look
      subst first
      have value : v = w := by
        have look := same k
        rw [get?_cons, if_pos rfl, get?_cons, if_pos rfl] at look
        exact Option.some.inj look
      subst value
      have later : rest = more := by
        refine ih tail end' fun key => ?_
        by_cases here : key = k
        · rw [here, get?_eq_none_of_lt above, get?_eq_none_of_lt beyond]
        · have look := same key
          rwa [get?_cons, get?_cons, if_neg here, if_neg here] at look
      rw [later]

/-- A map in ascending order is the map of its pairs, in whatever order they come. -/
theorem ofList_of_perm {pairs : List (String × α)} {d : Dict α} (sorted : Sorted d)
    (perm : pairs.Perm d) : ofList pairs = d := by
  have nodup : (keys pairs).Nodup := (perm.map Prod.fst).nodup_iff.2 (nodup_keys sorted)
  refine ext (sorted_ofList pairs) sorted fun key => ?_
  rw [get?_ofList_of_nodup nodup, get?_of_perm nodup perm]

theorem ofList_of_sorted {d : Dict α} (sorted : Sorted d) : ofList d = d :=
  ofList_of_perm sorted (List.Perm.refl d)

theorem erase_cons_self (key : String) (v : α) (rest : Dict α) :
    erase ((key, v) :: rest) key = erase rest key :=
  List.filter_cons_of_neg (by simp)

theorem erase_cons_of_ne {k key : String} (other : k ≠ key) (v : α) (rest : Dict α) :
    erase ((k, v) :: rest) key = (k, v) :: erase rest key :=
  List.filter_cons_of_pos (bne_iff_ne.2 other)

theorem get?_erase (d : Dict α) (key other : String) :
    get? (erase d key) other = if other = key then none else get? d other := by
  induction d with
  | nil => simp [erase]
  | cons entry rest ih =>
    obtain ⟨k, v⟩ := entry
    rw [get?_cons]
    by_cases gone : k = key
    · subst gone
      rw [erase_cons_self, ih]
      by_cases same : other = k
      · rw [if_pos same, if_pos same]
      · rw [if_neg same, if_neg same, if_neg same]
    · rw [erase_cons_of_ne gone, get?_cons, ih]
      by_cases here : other = k
      · rw [if_pos here, if_pos here, if_neg fun same => gone (here.symm.trans same)]
      · rw [if_neg here, if_neg here]

theorem sorted_erase {d : Dict α} (sorted : Sorted d) (key : String) : Sorted (erase d key) :=
  List.Pairwise.filter _ sorted

theorem not_mem_keys_insert {d : Dict α} {key other : String} (absent : other ∉ keys d)
    (ne : other ≠ key) (value : α) : other ∉ keys (insert d key value) := by
  rw [← get?_eq_none_iff, get?_insert, if_neg ne, get?_eq_none_iff]
  exact absent

theorem not_mem_keys_erase (d : Dict α) (key : String) : key ∉ keys (erase d key) := by
  rw [← get?_eq_none_iff, get?_erase, if_pos rfl]

theorem erase_of_not_mem_keys {d : Dict α} {key : String} (absent : key ∉ keys d) :
    erase d key = d :=
  List.filter_eq_self.2 fun entry mem => bne_iff_ne.2 fun same =>
    absent (List.mem_map.2 ⟨entry, mem, same⟩)

/-- A pair put before a map counts as long as the map has no value for its key. -/
theorem get?_ofList_cons {d : Dict α} (sorted : Sorted d) {key : String} (absent : key ∉ keys d)
    (value : α) (other : String) :
    get? (ofList ((key, value) :: d)) other = if other = key then some value else get? d other := by
  have nodup : (keys ((key, value) :: d)).Nodup := List.nodup_cons.2 ⟨absent, nodup_keys sorted⟩
  rw [get?_ofList_of_nodup nodup, get?_cons]

/-- A pair put before a map can be taken out again. -/
theorem erase_ofList_cons {d : Dict α} (sorted : Sorted d) {key : String} (absent : key ∉ keys d)
    (value : α) : erase (ofList ((key, value) :: d)) key = d := by
  refine ext (sorted_erase (sorted_ofList _) key) sorted fun other => ?_
  rw [get?_erase, get?_ofList_cons sorted absent]
  by_cases same : other = key
  · rw [if_pos same, same, get?_eq_none_iff.2 absent]
  · rw [if_neg same, if_neg same]

/-- What is taken out of a map can be put back. -/
theorem ofList_cons_erase {d : Dict α} (sorted : Sorted d) {key : String} {value : α}
    (found : get? d key = some value) : ofList ((key, value) :: erase d key) = d := by
  refine ext (sorted_ofList _) sorted fun other => ?_
  rw [get?_ofList_cons (sorted_erase sorted key) (not_mem_keys_erase d key), get?_erase]
  by_cases same : other = key
  · rw [if_pos same, same, found]
  · rw [if_neg same, if_neg same]

/-- Maps that go by the same keys, with values that answer to each other. -/
def Alike (related : α → β → Prop) (d : Dict α) (e : Dict β) : Prop :=
  List.Forall₂ (fun first second => first.1 = second.1 ∧ related first.2 second.2) d e

theorem Alike.imp {related other : α → β → Prop} {d : Dict α} {e : Dict β}
    (alike : Alike related d e)
    (implies : ∀ entry ∈ d, ∀ w, related entry.2 w → other entry.2 w) : Alike other d e := by
  unfold Alike at *
  induction alike with
  | nil => exact .nil
  | cons here _ ih =>
    exact .cons ⟨here.1, implies _ List.mem_cons_self _ here.2⟩
      (ih fun entry mem => implies entry (List.mem_cons_of_mem _ mem))

theorem Alike.flip {related : α → β → Prop} {d : Dict α} {e : Dict β} (alike : Alike related d e) :
    Alike (fun w v => related v w) e d := by
  unfold Alike at *
  induction alike with
  | nil => exact .nil
  | cons here _ ih => exact .cons ⟨here.1.symm, here.2⟩ ih

theorem exists_alike {related : α → β → Prop} {d : Dict α}
    (each : ∀ entry ∈ d, ∃ w, related entry.2 w) : ∃ e : Dict β, Alike related d e := by
  unfold Alike
  induction d with
  | nil => exact ⟨[], .nil⟩
  | cons entry rest ih =>
    obtain ⟨w, here⟩ := each entry List.mem_cons_self
    obtain ⟨e, later⟩ := ih fun entry mem => each entry (List.mem_cons_of_mem _ mem)
    exact ⟨(entry.1, w) :: e, .cons ⟨rfl, here⟩ later⟩

theorem Alike.keys_eq {related : α → β → Prop} {d : Dict α} {e : Dict β}
    (alike : Alike related d e) : keys d = keys e := by
  induction alike with
  | nil => rfl
  | cons here _ ih => exact congrArg₂ List.cons here.1 ih

/-- Such maps have the same keys, and item by item values that answer to each other. -/
theorem alike_iff {related : α → β → Prop} {d : Dict α} {e : Dict β} : Alike related d e
    ↔ keys d = keys e ∧ List.Forall₂ related (d.map Prod.snd) (e.map Prod.snd) := by
  rw [List.forall₂_map_left_iff, List.forall₂_map_right_iff]
  constructor
  · intro alike
    have values : List.Forall₂ (fun first second => related first.2 second.2) d e :=
      List.Forall₂.imp (fun _ _ both => both.2) alike
    exact ⟨alike.keys_eq, values⟩
  · rintro ⟨names, values⟩
    rw [keys, keys, ← List.forall₂_eq_eq_eq, List.forall₂_map_left_iff,
      List.forall₂_map_right_iff] at names
    unfold Alike
    induction names with
    | nil => exact .nil
    | cons name _ ih =>
      cases values with
      | cons value rest => exact .cons ⟨name, value⟩ (ih rest)

theorem Alike.sorted {related : α → β → Prop} {d : Dict α} {e : Dict β} (alike : Alike related d e)
    (sorted : Sorted d) : Sorted e := by
  have byKeys {γ : Type} (d : Dict γ) : Sorted d ↔ (keys d).Pairwise (· < ·) := by
    rw [keys, List.pairwise_map]
    rfl
  rw [byKeys, ← alike.keys_eq, ← byKeys]
  exact sorted

theorem Alike.erase {related : α → β → Prop} {d : Dict α} {e : Dict β} (alike : Alike related d e)
    (key : String) : Alike related (Dict.erase d key) (Dict.erase e key) := by
  unfold Alike at *
  induction alike with
  | nil => exact .nil
  | @cons first second _ _ here _ ih =>
    obtain ⟨k, v⟩ := first
    obtain ⟨_, w⟩ := second
    obtain ⟨rfl, answers⟩ := here
    by_cases gone : k = key
    · subst gone
      rw [erase_cons_self, erase_cons_self]
      exact ih
    · rw [erase_cons_of_ne gone, erase_cons_of_ne gone]
      exact .cons ⟨rfl, answers⟩ ih

/-- Of such maps, both have a value for a key or neither has. -/
theorem Alike.get? {related : α → β → Prop} {d : Dict α} {e : Dict β} (alike : Alike related d e)
    (key : String) :
    (Dict.get? d key = none ∧ Dict.get? e key = none)
      ∨ ∃ v w, Dict.get? d key = some v ∧ Dict.get? e key = some w ∧ related v w := by
  induction alike with
  | nil => exact .inl ⟨rfl, rfl⟩
  | @cons first second rest more here _ ih =>
    obtain ⟨k, v⟩ := first
    obtain ⟨l, w⟩ := second
    obtain ⟨same, answers⟩ := here
    simp only at same answers
    rw [get?_cons, get?_cons, ← same]
    by_cases found : key = k
    · rw [if_pos found, if_pos found]
      exact .inr ⟨v, w, rfl, rfl, answers⟩
    · rw [if_neg found, if_neg found]
      exact ih

end RestService.Dict
