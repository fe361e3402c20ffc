import RestService.Proofs.Decimal.Finite
import RestService.Proofs.Json.Value
import RestService.Proofs.Resource.Value

set_option autoImplicit false

namespace RestService

/-- Records are in order and have no field in place of their type, and numbers are finite. -/
inductive Value.Regular : Value → Prop
  | null : Regular .null
  | bool (b : Bool) : Regular (.bool b)
  | int (n : Int64) : Regular (.int n)
  | float {x : Float} (finite : x.isFinite = true) : Regular (.float x)
  | text (s : String) : Regular (.text s)
  | list {items : List Value} (each : ∀ item ∈ items, Regular item) : Regular (.list items)
  | mapping {fields : Fields} (sorted : Dict.Sorted fields) (untyped : typeKey ∉ Dict.keys fields)
      (each : ∀ entry ∈ fields, Regular entry.2) : Regular (.mapping fields)
  | resource {fields : Fields} (typeName : String) (sorted : Dict.Sorted fields)
      (untyped : typeKey ∉ Dict.keys fields) (each : ∀ entry ∈ fields, Regular entry.2) :
      Regular (.resource typeName fields)

/-- What is known of the records of a regular value comes with the order of their fields. -/
theorem Value.Regular.records {P : String → Fields → Prop} {v : Value} (regular : v.Regular)
    (records : v.Records P) :
    v.Records fun typeName fields => P typeName fields ∧ Dict.Sorted fields
      ∧ typeKey ∉ Dict.keys fields := by
  induction records with
  | scalar simple => exact .scalar simple
  | list inner ih =>
    cases regular with
    | list each => exact .list fun item mem => ih item mem (each item mem)
  | resource here inner ih =>
    cases regular with
    | resource _ sorted untyped each =>
      exact .resource ⟨here, sorted, untyped⟩ fun entry mem => ih entry mem (each entry mem)

theorem Value.Regular.orderly {v : Value} (regular : v.Regular) : v.Orderly := by
  induction regular with
  | null | bool b | int n | float finite | text s => exact .scalar rfl trivial
  | list _ ih => exact .list trivial ih
  | mapping sorted untyped _ ih => exact .mapping ⟨sorted, untyped⟩ ih
  | resource typeName sorted untyped _ ih => exact .resource ⟨sorted, untyped⟩ ih

namespace JsonTree

/-- Numbers are in range and members in order. -/
inductive Sound : JsonTree → Prop
  | null : Sound .null
  | bool (b : Bool) : Sound (.bool b)
  | integer {n : Int} (least : -Decimal.twoTo 63 ≤ n) (small : n < Decimal.twoTo 64) :
      Sound (.integer n)
  | float {x : Float} (finite : x.isFinite = true) : Sound (.float x)
  | text (s : String) : Sound (.text s)
  | array {items : List JsonTree} (each : ∀ item ∈ items, Sound item) : Sound (.array items)
  | object {members : List (String × JsonTree)} (sorted : Dict.Sorted members)
      (each : ∀ entry ∈ members, Sound entry.2) : Sound (.object members)

theorem sound_ofFloat (x : Float) : (ofFloat x).Sound := by
  unfold ofFloat
  split
  · rename_i finite
    exact .float finite
  · exact .null

theorem significand_addWhole {d : Digits} (small : d.significand < significandBound) (digit : Nat) :
    (d.addWhole digit).significand < significandBound := by
  unfold Digits.addWhole
  simp only
  split
  · rename_i fits
    exact fits.2
  · exact small

theorem significand_foldl {d : Digits} (small : d.significand < significandBound)
    (digits : List Nat) : (digits.foldl Digits.addWhole d).significand < significandBound := by
  induction digits generalizing d with
  | nil => exact small
  | cons digit digits ih => exact ih (significand_addWhole small digit)

theorem sound_numberOf {negative : Bool} {whole : List Nat} {fraction : Option (List Nat)}
    {exponent : Option Int} {tree : JsonTree}
    (read : numberOf negative whole fraction exponent = .ok tree) : tree.Sound := by
  have small : (whole.foldl Digits.addWhole {}).significand < Decimal.twoTo 64 :=
    significand_foldl (by decide) whole
  unfold numberOf at read
  simp only at read
  split at read
  · split at read
    · rw [← Except.ok.inj read]
      have order : (0 : Int) ≤ Decimal.twoTo 63 := by decide
      exact .integer (by omega) (by omega)
    · split at read
      · rw [← Except.ok.inj read]
        exact sound_ofFloat _
      · rename_i inside
        rw [← Except.ok.inj read]
        have order : (0 : Int) < Decimal.twoTo 64 := by decide
        exact .integer (by omega) (by omega)
  · split at read
    · rw [← Except.ok.inj read]
      exact sound_ofFloat _
    · cases read

theorem sound_readNumber {cs rest : List Char} {tree : JsonTree}
    (read : readNumber cs = .ok (tree, rest)) : tree.Sound := by
  unfold readNumber at read
  simp only at read
  split at read
  · cases read
  · obtain ⟨number, made, same⟩ := Result.map_eq_ok.1 read
    rw [← (Prod.mk.inj same).1]
    exact sound_numberOf made

def SoundReader (read : Reader) : Prop :=
  ∀ cs tree rest, read cs = .ok (tree, rest) → tree.Sound

variable {read : Reader}

theorem sound_readItems (sound : SoundReader read) {bound : Nat} {cs rest : List Char}
    {items : List JsonTree} (found : readItems read bound cs = .ok (items, rest)) :
    ∀ item ∈ items, item.Sound := by
  induction bound generalizing cs items rest with
  | zero => cases found
  | succ bound ih =>
    rw [readItems] at found
    obtain ⟨⟨item, after⟩, here, more⟩ := Result.bind_eq_ok.1 found
    have first := sound cs item after here
    simp only at more
    split at more
    · obtain ⟨⟨others, last⟩, later, whole⟩ := Result.bind_eq_ok.1 more
      cases whole
      exact List.forall_mem_cons.2 ⟨first, ih later⟩
    · cases more
      exact List.forall_mem_singleton.2 first
    · cases more

theorem sound_readMembers (sound : SoundReader read) {bound : Nat} {cs rest : List Char}
    {members : List (String × JsonTree)} (found : readMembers read bound cs = .ok (members, rest)) :
    ∀ entry ∈ members, entry.2.Sound := by
  induction bound generalizing cs members rest with
  | zero => cases found
  | succ bound ih =>
    rw [readMembers] at found
    obtain ⟨_, -, found⟩ := Result.bind_eq_ok.1 found
    obtain ⟨⟨name, _⟩, -, found⟩ := Result.bind_eq_ok.1 found
    obtain ⟨start, -, found⟩ := Result.bind_eq_ok.1 found
    obtain ⟨⟨item, after⟩, here, more⟩ := Result.bind_eq_ok.1 found
    have first := sound start item after here
    simp only at more
    split at more
    · obtain ⟨⟨others, last⟩, later, whole⟩ := Result.bind_eq_ok.1 more
      cases whole
      exact List.forall_mem_cons.2 ⟨first, ih later⟩
    · cases more
      exact List.forall_mem_singleton.2 first
    · cases more

theorem sound_readArray (sound : SoundReader read) : SoundReader (readArray read) := by
  intro cs tree rest found
  unfold readArray at found
  split at found
  · cases found
    exact .array (List.forall_mem_nil _)
  · obtain ⟨⟨items, after⟩, inside, same⟩ := Result.map_eq_ok.1 found
    cases same
    exact .array (sound_readItems sound inside)

theorem sound_readObject (sound : SoundReader read) : SoundReader (readObject read) := by
  intro cs tree rest found
  unfold readObject at found
  split at found
  · cases found
    exact .object .nil (List.forall_mem_nil _)
  · obtain ⟨⟨members, after⟩, inside, same⟩ := Result.map_eq_ok.1 found
    cases same
    refine .object (Dict.sorted_ofList members) fun entry mem => ?_
    exact sound_readMembers sound inside entry (Dict.mem_of_mem_ofList mem)

theorem sound_readWith {inner? : Option Reader} (sound : ∀ inner ∈ inner?, SoundReader inner) :
    SoundReader (readWith inner?) := by
  intro cs tree rest found
  unfold readWith at found
  simp only at found
  split at found
  · split at found
    · exact sound_readArray (sound _ rfl) _ _ _ found
    · cases found
  · split at found
    · exact sound_readObject (sound _ rfl) _ _ _ found
    · cases found
  · obtain ⟨⟨s, after⟩, -, same⟩ := Result.map_eq_ok.1 found
    cases same
    exact .text s
  · cases found
    exact .null
  · cases found
    exact .bool true
  · cases found
    exact .bool false
  · cases found
  · split at found
    · exact sound_readNumber found
    · cases found

theorem sound_readTree (depth : Nat) : SoundReader (readTree depth) := by
  induction depth with
  | zero => exact sound_readWith fun inner none => nomatch none
  | succ depth ih =>
    refine sound_readWith fun inner same => ?_
    cases same
    exact ih

theorem sound_of_read {s : String} {tree : JsonTree} (found : JsonTree.read s = .ok tree) :
    tree.Sound := by
  unfold JsonTree.read at found
  obtain ⟨⟨made, rest⟩, inside, same⟩ := Result.bind_eq_ok.1 found
  simp only at same
  split at same
  · cases same
    exact sound_readTree maxDepth _ _ _ inside
  · cases same

theorem Sound.regular {tree : JsonTree} (sound : tree.Sound) {v : Value}
    (told : tree.toValue = .ok v) : v.Regular := by
  induction sound generalizing v with
  | null =>
    cases told
    exact .null
  | bool b =>
    cases told
    exact .bool b
  | @integer n least small =>
    rw [toValue] at told
    split at told
    · cases told
      exact .int _
    · rename_i large
      cases told
      refine .float ?_
      have outside : ¬(-Decimal.twoTo 63 ≤ n ∧ n < Decimal.twoTo 63) := fun fits => by
        rw [Decimal.toInt64?, if_pos fits] at large
        cases large
      obtain ⟨m, rfl⟩ := Int.eq_ofNat_of_zero_le (a := n) (by omega)
      exact Decimal.isFinite_ofInt (by omega) (by omega)
  | float finite =>
    cases told
    exact .float finite
  | text s =>
    cases told
    exact .text s
  | array _ ih =>
    rw [toValue] at told
    obtain ⟨vs, inside, same⟩ := Result.map_eq_ok.1 told
    cases same
    refine .list fun v mem => ?_
    obtain ⟨item, here, told⟩ := Result.exists_of_mem_right (itemValues_eq_ok.1 inside) mem
    exact ih item here told
  | object sorted _ ih =>
    rw [toValue] at told
    obtain ⟨⟨typeName?, fields⟩, inside, same⟩ := Result.map_eq_ok.1 told
    obtain ⟨order, untyped, members⟩ := fields_of_memberValues sorted inside
    have values : ∀ entry ∈ fields, entry.2.Regular := by
      intro entry mem
      obtain ⟨member, here, told⟩ := members entry mem
      exact ih member here told
    cases typeName? with
    | none =>
      cases same
      exact .mapping order untyped values
    | some typeName =>
      cases same
      exact .resource typeName order untyped values

/-- What a body says is regular. -/
theorem regular_of_parseBody {charset? : Option String} {body : ByteArray} {v : Value}
    (parsed : parseBody charset? body = .ok v) : v.Regular := by
  obtain ⟨text, -, more⟩ := Result.bind_eq_ok.1 parsed
  split at more
  · cases more
  · rename_i tree found
    split at more
    · cases more
    · rename_i value told
      cases more
      exact (sound_of_read found).regular told

/-- What is regular has a form. -/
theorem exists_ofValue {v : Value} (regular : v.Regular) : ∃ tree, ofValue v = .ok tree := by
  induction regular with
  | null => exact ⟨_, rfl⟩
  | bool b => exact ⟨_, rfl⟩
  | int n => exact ⟨_, rfl⟩
  | @float x finite => exact ⟨.float x, if_pos finite⟩
  | text s => exact ⟨_, rfl⟩
  | list _ ih =>
    obtain ⟨trees, found⟩ := exists_ofItems_iff.2 ih
    exact ⟨.array trees, by rw [ofValue, found]; rfl⟩
  | mapping _ _ _ ih =>
    obtain ⟨members, found⟩ := exists_ofFields_iff.2 ih
    exact ⟨.object (Dict.ofList members), by rw [ofValue, found]; rfl⟩
  | resource typeName _ _ _ ih =>
    obtain ⟨members, found⟩ := exists_ofFields_iff.2 ih
    exact ⟨.object (Dict.ofList ((typeKey, .text typeName) :: members)), by
      rw [ofValue, found]; rfl⟩

end JsonTree

end RestService
