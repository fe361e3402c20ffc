import RestService.Http.Header
import RestService.Text.Blank
import RestService.Text.Utf8

set_option autoImplicit false

namespace RestService.Text

theorem toList_loop (bytes : ByteArray) (i : Nat) (passed : List UInt8) :
    ByteArray.toList.loop bytes i passed = passed.reverse ++ bytes.data.toList.drop i := by
  fun_induction ByteArray.toList.loop bytes i passed with
  | case1 i passed inside ih =>
    have bound : i < bytes.data.toList.length := inside
    rw [ih, List.drop_eq_getElem_cons bound, List.reverse_cons, List.append_assoc]
    have item : bytes.get! i = bytes.data.toList[i] := by
      change bytes.data[i]! = _
      rw [getElem!_pos bytes.data i inside, Array.getElem_toList]
    rw [item, List.singleton_append]
  | case2 i passed outside =>
    have bound : bytes.data.toList.length ≤ i := Nat.le_of_not_lt outside
    rw [List.drop_eq_nil_of_le bound, List.append_nil]

/-- The bytes of an array are those of the array that it wraps. -/
theorem toList_eq_data (bytes : ByteArray) : bytes.toList = bytes.data.toList :=
  (toList_loop bytes 0 []).trans (by rw [List.reverse_nil, List.nil_append, List.drop_zero])

@[simp] theorem toList_mk (bytes : List UInt8) : (ByteArray.mk bytes.toArray).toList = bytes := by
  rw [toList_eq_data]

theorem mk_toList (bytes : ByteArray) : ByteArray.mk bytes.toList.toArray = bytes := by
  rw [toList_eq_data, Array.toArray_toList]

/-- The bytes of a text are those of its characters. -/
theorem toList_toUTF8 (s : String) : s.toUTF8.toList = s.toList.flatMap String.utf8EncodeChar := by
  rw [toList_eq_data, String.toUTF8_eq_toByteArray, ← String.utf8Encode_toList, List.utf8Encode,
    List.toList_data_toByteArray]

theorem fromUTF8?_toUTF8 (s : String) : String.fromUTF8? s.toUTF8 = some s := by
  have valid : s.toUTF8.IsValidUTF8 := s.isValidUTF8
  rw [String.fromUTF8?, dif_pos valid]
  rfl

/-- The characters of ASCII. -/
def IsAscii (c : Char) : Prop := c.toNat < 0x80

theorem toLower_of_not_isAscii {c : Char} (beyond : ¬IsAscii c) : c.toLower = c := by
  have large : ¬c.val.toNat < 128 := beyond
  refine dif_neg ?_
  rw [UInt32.le_iff_toNat_le]
  intro ⟨_, high⟩
  have high : c.val.toNat ≤ 90 := high
  omega

/-- The characters of ASCII that leave a mark, and the space. -/
def IsPrintable (c : Char) : Prop := 0x20 ≤ c.toNat ∧ c.toNat < 0x7F

instance (c : Char) : Decidable (IsPrintable c) := inferInstanceAs (Decidable (_ ∧ _))

theorem IsPrintable.isAscii {c : Char} (printable : IsPrintable c) : IsAscii c :=
  Nat.lt_succ_of_lt printable.2

theorem isPrintable_of_isAlpha {c : Char} (alpha : c.isAlpha = true) : IsPrintable c := by
  change (decide ('A'.val ≤ c.val ∧ c.val ≤ 'Z'.val)
    || decide ('a'.val ≤ c.val) && decide (c.val ≤ 'z'.val)) = true at alpha
  simp only [Bool.or_eq_true, Bool.and_eq_true, decide_eq_true_eq,
    UInt32.le_iff_toNat_le] at alpha
  change (65 ≤ c.toNat ∧ c.toNat ≤ 90) ∨ (97 ≤ c.toNat ∧ c.toNat ≤ 122) at alpha
  exact ⟨by omega, by omega⟩

theorem isPrintable_of_isAlphanum {c : Char} (plain : c.isAlphanum = true) : IsPrintable c := by
  rcases Bool.or_eq_true _ _ |>.mp plain with alpha | digit
  · exact isPrintable_of_isAlpha alpha
  · simp only [Char.isDigit, Bool.and_eq_true, decide_eq_true_eq, UInt32.le_iff_toNat_le,
      ge_iff_le] at digit
    change 48 ≤ c.toNat ∧ c.toNat ≤ 57 at digit
    exact ⟨by omega, by omega⟩

/-- The only printable blank is the space. -/
theorem isBlank_of_isPrintable {c : Char} (printable : IsPrintable c) (other : c ≠ ' ') :
    isBlank c = false := by
  obtain ⟨low, high⟩ := printable
  have above : c.toNat ≠ 0x20 := fun same => other (Char.toNat_inj.1 same)
  simp [isBlank]
  omega

/-- Text of printable characters only. -/
def AllPrintable (cs : List Char) : Prop := ∀ c ∈ cs, IsPrintable c

instance (cs : List Char) : Decidable (AllPrintable cs) := List.decidableBAll IsPrintable cs

theorem AllPrintable.nil : AllPrintable [] := List.forall_mem_nil _

theorem AllPrintable.append {first second : List Char} (printable : AllPrintable first)
    (more : AllPrintable second) : AllPrintable (first ++ second) := fun c mem =>
  (List.mem_append.1 mem).elim (printable c) (more c)

theorem AllPrintable.cons {c : Char} {cs : List Char} (printable : IsPrintable c)
    (more : AllPrintable cs) : AllPrintable (c :: cs) :=
  List.forall_mem_cons.2 ⟨printable, more⟩

theorem AllPrintable.subset {some all : List Char} (printable : AllPrintable all)
    (within : ∀ c ∈ some, c ∈ all) : AllPrintable some := fun c mem => printable c (within c mem)

theorem AllPrintable.concat {first second : String} (printable : AllPrintable first.toList)
    (more : AllPrintable second.toList) : AllPrintable (first ++ second).toList := by
  rw [String.toList_append]
  exact printable.append more

theorem AllPrintable.ofList {cs : List Char} (printable : AllPrintable cs) :
    AllPrintable (String.ofList cs).toList := by
  rwa [String.toList_ofList]

theorem AllPrintable.intercalate {sep : String} {texts : List String}
    (printable : AllPrintable sep.toList) (all : ∀ s ∈ texts, AllPrintable s.toList) :
    AllPrintable (String.intercalate sep texts).toList := by
  induction texts with
  | nil => exact AllPrintable.nil
  | cons first rest ih =>
    cases rest with
    | nil => exact all first List.mem_cons_self
    | cons second rest =>
      rw [String.intercalate_cons_cons]
      exact ((all first List.mem_cons_self).concat printable).concat
        (ih fun s mem => all s (List.mem_cons_of_mem first mem))

theorem AllPrintable.join {texts : List String} (all : ∀ s ∈ texts, AllPrintable s.toList) :
    AllPrintable (String.join texts).toList := by
  intro c mem
  rw [String.toList_join] at mem
  obtain ⟨s, inside, within⟩ := List.mem_flatMap.1 mem
  exact all s inside c within

theorem isPrintable_digitChar (digit : Nat) : IsPrintable (Nat.digitChar digit) := by
  by_cases small : digit < 16
  · exact (by decide : ∀ d < 16, IsPrintable (Nat.digitChar d)) digit small
  · have star : Nat.digitChar digit = '*' := by
      unfold Nat.digitChar
      repeat rw [if_neg (by omega)]
    rw [star]
    decide

theorem isPrintable_toUpper {c : Char} (printable : IsPrintable c) : IsPrintable c.toUpper := by
  have all : ∀ n < 0x7F, 0x20 ≤ n → IsPrintable (Char.ofNat n).toUpper := by decide
  have upper := all c.toNat printable.2 printable.1
  rwa [Char.ofNat_toNat] at upper

theorem isPrintable_toLower {c : Char} (printable : IsPrintable c) : IsPrintable c.toLower := by
  have all : ∀ n < 0x7F, 0x20 ≤ n → IsPrintable (Char.ofNat n).toLower := by decide
  have lower := all c.toNat printable.2 printable.1
  rwa [Char.ofNat_toNat] at lower

/-- The digits of a number are printable in every radix. -/
theorem allPrintable_toDigits {radix : Nat} (large : 1 < radix) (n : Nat) :
    AllPrintable (Nat.toDigits radix n) := by
  induction n using Nat.strongRecOn with
  | ind n ih =>
    have last : AllPrintable [Nat.digitChar (n % radix)] :=
      AllPrintable.cons (isPrintable_digitChar _) AllPrintable.nil
    rw [Nat.toDigits_eq_if large]
    split
    · exact AllPrintable.cons (isPrintable_digitChar _) AllPrintable.nil
    · exact (ih (n / radix) (Nat.div_lt_self (by omega) large)).append last

theorem allPrintable_toString (n : Nat) : AllPrintable (toString n).toList := by
  rw [Nat.toString_eq_repr, Nat.toList_repr]
  exact allPrintable_toDigits (by decide) n

/-- The character whose number a byte is. -/
theorem toNat_ofNat_toNat (b : UInt8) : (Char.ofNat b.toNat).toNat = b.toNat := by
  have valid : b.toNat.isValidChar := .inl (Nat.lt_trans b.toNat_lt (by decide))
  rw [Char.ofNat, dif_pos valid]
  rfl

/-- A byte stands for one character only. -/
theorem eq_of_byte_eq {c d : Char} (small : c.toNat < 0x100) (other : d.toNat < 0x100)
    (same : UInt8.ofNat c.toNat = UInt8.ofNat d.toNat) : c = d := by
  have numbers := congrArg UInt8.toNat same
  rw [UInt8.toNat_ofNat_of_lt' small, UInt8.toNat_ofNat_of_lt' other] at numbers
  rw [← Char.ofNat_toNat c, numbers, Char.ofNat_toNat]

theorem utf8EncodeChar_of_isAscii {c : Char} (ascii : IsAscii c) :
    String.utf8EncodeChar c = [UInt8.ofNat c.toNat] := by
  have bound : c.val.toNat ≤ 0x7F := Nat.le_of_lt_succ ascii
  simp only [String.utf8EncodeChar, bound, ↓reduceIte]
  rfl

/-- No byte of a character beyond ASCII is one of ASCII. -/
theorem le_of_mem_utf8EncodeChar {c : Char} (beyond : ¬IsAscii c) {b : UInt8}
    (mem : b ∈ String.utf8EncodeChar c) : 0x80 ≤ b.toNat := by
  have large : ¬c.val.toNat ≤ 0x7F := fun small => beyond (Nat.lt_succ_of_le small)
  simp only [String.utf8EncodeChar, if_neg large] at mem
  split at mem
  · simp only [List.mem_cons, List.not_mem_nil, or_false] at mem
    rcases mem with rfl | rfl <;> rw [UInt8.toNat_ofNat'] <;> omega
  · split at mem
    · simp only [List.mem_cons, List.not_mem_nil, or_false] at mem
      rcases mem with rfl | rfl | rfl <;> rw [UInt8.toNat_ofNat'] <;> omega
    · simp only [List.mem_cons, List.not_mem_nil, or_false] at mem
      rcases mem with rfl | rfl | rfl | rfl <;> rw [UInt8.toNat_ofNat'] <;> omega

theorem flatMap_utf8EncodeChar {cs : List Char} (ascii : ∀ c ∈ cs, IsAscii c) :
    cs.flatMap String.utf8EncodeChar = cs.map fun c => UInt8.ofNat c.toNat := by
  induction cs with
  | nil => rfl
  | cons c cs ih =>
    rw [List.flatMap_cons, List.map_cons, utf8EncodeChar_of_isAscii (ascii c List.mem_cons_self),
      ih fun d mem => ascii d (List.mem_cons_of_mem c mem), List.singleton_append]

theorem toUTF8_of_fromUTF8? {bytes : ByteArray} {s : String}
    (read : String.fromUTF8? bytes = some s) : s.toUTF8 = bytes := by
  unfold String.fromUTF8? at read
  split at read
  · rw [← Option.some.inj read]
    rfl
  · cases read

/-- No character starts with a byte that continues one. -/
theorem exists_utf8EncodeChar (c : Char) :
    ∃ b bs, String.utf8EncodeChar c = b :: bs ∧ (b.toNat < 0x80 ∨ 0xC0 ≤ b.toNat) := by
  simp only [String.utf8EncodeChar]
  split
  · exact ⟨_, _, rfl, .inl (by rw [UInt8.toNat_ofNat']; omega)⟩
  · split
    · exact ⟨_, _, rfl, .inr (by rw [UInt8.toNat_ofNat']; omega)⟩
    · split
      · exact ⟨_, _, rfl, .inr (by rw [UInt8.toNat_ofNat']; omega)⟩
      · exact ⟨_, _, rfl, .inr (by rw [UInt8.toNat_ofNat']; omega)⟩

/-- Behind ASCII text, a byte that continues a character is no UTF-8. -/
theorem fromUTF8?_eq_none {bytes : ByteArray} {front : List Char} {b : UInt8} {rest : List UInt8}
    (ascii : ∀ c ∈ front, IsAscii c) (continues : 0x80 ≤ b.toNat ∧ b.toNat < 0xC0)
    (layout : bytes.toList = (front.map fun c => UInt8.ofNat c.toNat) ++ b :: rest) :
    String.fromUTF8? bytes = none := by
  cases read : String.fromUTF8? bytes with
  | none => rfl
  | some s =>
    exfalso
    rw [← toUTF8_of_fromUTF8? read, toList_toUTF8] at layout
    -- ASCII keeps bytes and characters in step until the byte that starts none.
    generalize s.toList = cs at layout
    induction front generalizing cs with
    | nil =>
      cases cs with
      | nil => cases layout
      | cons c cs =>
        obtain ⟨first, more, bytes, place⟩ := exists_utf8EncodeChar c
        rw [List.flatMap_cons, bytes, List.map_nil, List.nil_append, List.cons_append,
          List.cons.injEq] at layout
        rw [layout.1] at place
        omega
    | cons d front ih =>
      obtain ⟨here, later⟩ := List.forall_mem_cons.1 ascii
      cases cs with
      | nil => cases layout
      | cons c cs =>
        obtain ⟨first, more, bytes, -⟩ := exists_utf8EncodeChar c
        have start : first = UInt8.ofNat d.toNat := by
          rw [List.flatMap_cons, bytes, List.map_cons, List.cons_append, List.cons_append,
            List.cons.injEq] at layout
          exact layout.1
        have small : first.toNat < 0x80 := by
          rw [start, UInt8.toNat_ofNat_of_lt' (Nat.lt_trans here (by decide))]
          exact here
        have single : IsAscii c := by
          refine Nat.lt_of_not_le fun large => ?_
          have beyond : ¬IsAscii c := Nat.not_lt.2 large
          have large := le_of_mem_utf8EncodeChar beyond (bytes ▸ List.mem_cons_self)
          omega
        rw [List.flatMap_cons, utf8EncodeChar_of_isAscii single, List.map_cons,
          List.singleton_append, List.cons_append, List.cons.injEq] at layout
        exact ih later cs layout.2

/-- Text that is not ASCII is no UTF-8 in bytes of one for each character, if these bytes would
continue characters. -/
theorem fromUTF8?_eq_none_of_beyond {cs : List Char} (beyond : ∃ c ∈ cs, ¬IsAscii c)
    (continues : ∀ c ∈ cs, ¬IsAscii c → c.toNat < 0xC0) {bytes : ByteArray} {rest : List UInt8}
    (layout : bytes.toList = (cs.map fun c => UInt8.ofNat c.toNat) ++ rest) :
    String.fromUTF8? bytes = none := by
  cases found : cs.find? fun c => decide (0x80 ≤ c.toNat) with
  | none =>
    obtain ⟨c, mem, large⟩ := beyond
    exact absurd (decide_eq_true (Nat.le_of_not_lt large)) (List.find?_eq_none.1 found c mem)
  | some c =>
    obtain ⟨large, front, back, rfl, before⟩ := List.find?_eq_some_iff_append.1 found
    have large : 0x80 ≤ c.toNat := of_decide_eq_true large
    have small : c.toNat < 0xC0 :=
      continues c (List.mem_append_right front List.mem_cons_self) (Nat.not_lt.2 large)
    have ascii : ∀ d ∈ front, IsAscii d := by
      intro d mem
      have less := before d mem
      simp only [Bool.not_eq_true', decide_eq_false_iff_not, Nat.not_le] at less
      exact less
    have value : (UInt8.ofNat c.toNat).toNat = c.toNat :=
      UInt8.toNat_ofNat_of_lt' (Nat.lt_trans small (by decide))
    rw [List.map_append, List.map_cons, List.append_assoc, List.cons_append] at layout
    exact fromUTF8?_eq_none ascii (by rw [value]; exact ⟨large, small⟩) layout

theorem toList_toUTF8_of_isAscii {s : String} (ascii : ∀ c ∈ s.toList, IsAscii c) :
    s.toUTF8.toList = s.toList.map fun c => UInt8.ofNat c.toNat := by
  rw [toList_toUTF8, flatMap_utf8EncodeChar ascii]

end RestService.Text

namespace RestService.HeaderValue

open Text (IsPrintable)

theorem isAllowed_of_isPrintable {c : Char} (printable : IsPrintable c) :
    isAllowed (UInt8.ofNat c.toNat) = true := by
  obtain ⟨low, high⟩ := printable
  have value : (UInt8.ofNat c.toNat).toNat = c.toNat := by
    rw [UInt8.toNat_ofNat']
    exact Nat.mod_eq_of_lt (by omega)
  have above : (32 : UInt8) ≤ UInt8.ofNat c.toNat :=
    UInt8.le_iff_toNat_le.2 (by rw [value]; exact low)
  have ne : UInt8.ofNat c.toNat ≠ 127 := by
    intro same
    have := congrArg UInt8.toNat same
    rw [value] at this
    simp only [UInt8.reduceToNat] at this
    omega
  simp [isAllowed, above, ne]

/-- Printable text may stand in a header, and so may tabs. -/
theorem ofText?_of_printable {s : String} (printable : ∀ c ∈ s.toList, IsPrintable c ∨ c = '\t') :
    ofText? s = some s.toUTF8 := by
  have ascii : ∀ c ∈ s.toList, Text.IsAscii c := fun c mem =>
    (printable c mem).elim Text.IsPrintable.isAscii fun tab => tab ▸ (by decide : 9 < 0x80)
  have allowed : s.toUTF8.toList.all isAllowed = true := by
    rw [Text.toList_toUTF8_of_isAscii ascii, List.all_map, List.all_eq_true]
    intro c mem
    rcases printable c mem with plain | tab
    · exact isAllowed_of_isPrintable plain
    · rw [tab]
      decide
  rw [ofText?, if_pos allowed]

/-- The text of a header is printable but for tabs. -/
theorem printable_of_text? {value : ByteArray} {s : String} (read : text? value = some s) :
    ∀ c ∈ s.toList, IsPrintable c ∨ c = '\t' := by
  unfold text? at read
  split at read
  · rename_i visible
    intro c mem
    rw [← Option.some.inj read, String.toList_ofList] at mem
    obtain ⟨b, inside, same⟩ := List.mem_map.1 mem
    have seen := List.all_eq_true.1 visible b inside
    simp only [isVisible, Bool.or_eq_true, Bool.and_eq_true, decide_eq_true_eq, beq_iff_eq,
      UInt8.le_iff_toNat_le, UInt8.lt_iff_toNat_lt] at seen
    rcases seen with ⟨low, high⟩ | tab
    · have low : 32 ≤ b.toNat := low
      have high : b.toNat < 127 := high
      have value : c.toNat = b.toNat := by
        rw [← same, Text.toNat_ofNat_toNat]
      exact .inl ⟨by omega, by omega⟩
    · exact .inr (by rw [← same, tab]; rfl)
  · exact absurd read (by simp)

end RestService.HeaderValue
