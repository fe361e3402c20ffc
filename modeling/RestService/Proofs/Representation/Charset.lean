import RestService.Proofs.Result
import RestService.Proofs.Text.Blank
import RestService.Proofs.Text.Bytes
import RestService.Representation.Charset

set_option autoImplicit false

namespace RestService.Charset

open Text (IsAscii isBlank)

theorem ofName_eq_ok {s : String} {charset : Charset} :
    ofName s = .ok charset ↔ ofName? s = some charset := by
  unfold ofName
  split
  · rename_i found
    rw [found, Option.some_inj, Except.ok.injEq]
  · rename_i none
    rw [none]
    exact ⟨fun same => (nomatch same), fun same => (nomatch same)⟩

theorem encodeBelow_eq_ok {charset : Charset} {bound : Nat} {cs : List Char} {bytes : List UInt8} :
    encodeBelow charset bound cs = .ok bytes ↔
      (∀ c ∈ cs, c.toNat < bound) ∧ cs.map (fun c => UInt8.ofNat c.toNat) = bytes := by
  unfold encodeBelow
  split
  · rename_i c found
    have large : bound ≤ c.toNat := by simpa using List.find?_some found
    constructor
    · intro same
      cases same
    · intro ⟨small, _⟩
      have mem := List.mem_of_find?_eq_some found
      exact absurd (small c mem) (Nat.not_lt.2 large)
  · rename_i none
    have small : ∀ c ∈ cs, c.toNat < bound := fun c mem =>
      Nat.lt_of_not_le fun large => List.find?_eq_none.1 none c mem (decide_eq_true large)
    exact ⟨fun same => ⟨small, Except.ok.inj same⟩, fun same => congrArg Except.ok same.2⟩

/-- Bytes read as characters are the characters that were written as bytes. -/
theorem directText_of_lt {cs : List Char} (small : ∀ c ∈ cs, c.toNat < 0x100) :
    directText ⟨(cs.map fun c => UInt8.ofNat c.toNat).toArray⟩ = String.ofList cs := by
  have same : ∀ c ∈ cs, ((fun b => Char.ofNat b.toNat) ∘ fun c => UInt8.ofNat c.toNat) c = c := by
    intro c mem
    rw [Function.comp, UInt8.toNat_ofNat_of_lt' (small c mem), Char.ofNat_toNat]
  rw [directText, Text.toList_mk, List.map_map, List.map_congr_left same, List.map_id']

/-- The bytes are left as they are, or without the first three, by what these three are. -/
theorem withoutMark_eq (bytes : ByteArray) : withoutMark bytes
    = if bytes.toList.take 3 = byteOrderMark then ⟨(bytes.toList.drop 3).toArray⟩ else bytes := by
  have front : (bytes.extract 0 3).toList = bytes.toList.take 3 := by
    rw [Text.toList_eq_data, ByteArray.data_extract, Array.toList_extract, Text.toList_eq_data]
    simp
  have back : bytes.extract 3 bytes.size = ⟨(bytes.toList.drop 3).toArray⟩ := by
    have whole : (bytes.extract 3 bytes.size).toList = bytes.toList.drop 3 := by
      rw [Text.toList_eq_data, ByteArray.data_extract, Array.toList_extract, Text.toList_eq_data,
        List.extract_eq_take_drop]
      exact List.take_of_length_le
        (Nat.le_of_eq (by rw [List.length_drop, Array.length_toList, ByteArray.size]))
    rw [← whole, Text.mk_toList]
  rw [withoutMark, front, back]

theorem withoutMark_of_ne {bytes : ByteArray} (unmarked : bytes.toList.take 3 ≠ byteOrderMark) :
    withoutMark bytes = bytes := by
  rw [withoutMark_eq, if_neg unmarked]

/-- With one byte for each character, a text is read back from its bytes. -/
theorem decode_encode_of_ne_utf8 {charset : Charset} (single : charset ≠ utf8) {text : String}
    {bytes : ByteArray} (encoded : charset.encode text = .ok bytes) :
    charset.decode bytes = .ok text := by
  cases charset with
  | utf8 => exact absurd rfl single
  | usAscii =>
    obtain ⟨bytes, below, rfl⟩ := Result.map_eq_ok.1 encoded
    obtain ⟨small, rfl⟩ := encodeBelow_eq_ok.1 below
    have below : ∀ c ∈ text.toList, c.toNat < 0x100 := fun c mem =>
      Nat.lt_trans (small c mem) (by decide)
    have within :
        (text.toList.map fun c => UInt8.ofNat c.toNat).findIdx? (fun b => 0x80 ≤ b) = none := by
      rw [List.findIdx?_eq_none_iff, List.forall_mem_map]
      intro c mem
      rw [decide_eq_false_iff_not, UInt8.le_iff_toNat_le, UInt8.toNat_ofNat_of_lt' (below c mem)]
      exact Nat.not_le.2 (small c mem)
    rw [decode, Text.toList_mk, within, directText_of_lt below, String.ofList_toList]
  | latin1 =>
    obtain ⟨bytes, below, rfl⟩ := Result.map_eq_ok.1 encoded
    obtain ⟨small, rfl⟩ := encodeBelow_eq_ok.1 below
    rw [decode, directText_of_lt small, String.ofList_toList]

/-- A text is read back from its bytes, unless a byte order mark might be missed. -/
theorem decode_encode {charset : Charset} {text : String} {bytes : ByteArray}
    (encoded : charset.encode text = .ok bytes) (unmarked : bytes.toList.take 3 ≠ byteOrderMark) :
    charset.decode bytes = .ok text := by
  cases charset with
  | utf8 =>
    have same : text.toUTF8 = bytes := Except.ok.inj encoded
    rw [decode, withoutMark_of_ne unmarked, ← same]
    simp only [(Text.decodeUtf8_eq_ok_iff _ text).2 (Text.fromUTF8?_toUTF8 text)]
  | usAscii | latin1 => exact decode_encode_of_ne_utf8 (by decide) encoded

theorem of_encode_latin1 {text : String} {bytes : ByteArray}
    (encoded : latin1.encode text = .ok bytes) :
    (∀ c ∈ text.toList, c.toNat < 0x100) ∧
      bytes.toList = text.toList.map fun c => UInt8.ofNat c.toNat := by
  obtain ⟨_, below, rfl⟩ := Result.map_eq_ok.1 encoded
  obtain ⟨small, rfl⟩ := encodeBelow_eq_ok.1 below
  exact ⟨small, Text.toList_mk _⟩

/-- The front of a text that is ASCII is the front of its bytes. -/
theorem exists_toList_encode {charset : Charset} {text : String} {bytes : ByteArray}
    (encoded : charset.encode text = .ok bytes) {front more : List Char}
    (whole : text.toList = front ++ more) (ascii : ∀ c ∈ front, IsAscii c) :
    ∃ rest, bytes.toList = (front.map fun c => UInt8.ofNat c.toNat) ++ rest := by
  cases charset with
  | utf8 =>
    rw [← Except.ok.inj encoded, Text.toList_toUTF8, whole, List.flatMap_append,
      Text.flatMap_utf8EncodeChar ascii]
    exact ⟨_, rfl⟩
  | usAscii =>
    obtain ⟨bytes, below, rfl⟩ := Result.map_eq_ok.1 encoded
    obtain ⟨-, rfl⟩ := encodeBelow_eq_ok.1 below
    rw [Text.toList_mk, whole, List.map_append]
    exact ⟨_, rfl⟩
  | latin1 =>
    rw [(of_encode_latin1 encoded).2, whole, List.map_append]
    exact ⟨_, rfl⟩

/-- The text that US-ASCII has a form for is ASCII. -/
theorem isAscii_of_encode {text : String} {bytes : ByteArray}
    (encoded : usAscii.encode text = .ok bytes) : ∀ c ∈ text.toList, IsAscii c := by
  obtain ⟨_, below, -⟩ := Result.map_eq_ok.1 encoded
  exact (encodeBelow_eq_ok.1 below).1

def isNameChar (c : Char) : Bool := c.isAlphanum || c == '-'

/-- The name of a charset has nothing else in it but blanks. -/
theorem of_mem_spelling {spelling : String} {charset : Charset}
    (known : ofName? spelling = some charset) {c : Char} (mem : c ∈ spelling.toList) :
    isBlank c = true ∨ isNameChar c.toLower = true := by
  have named : (Text.lowerAscii (Text.trim spelling)).toList.all isNameChar = true := by
    simp only [ofName?] at known
    split at known
    · rename_i name
      exact (by decide : ∀ name ∈ ["utf-8", "utf8"], name.toList.all isNameChar = true) _ name
    · split at known
      · rename_i name
        exact (by decide : ∀ name ∈ ["us-ascii", "ascii"], name.toList.all isNameChar = true) _ name
      · split at known
        · rename_i name
          exact (by decide : ∀ name ∈ ["iso-8859-1", "iso8859-1", "latin-1", "latin1"],
            name.toList.all isNameChar = true) _ name
        · cases known
  cases blank : isBlank c with
  | true => exact .inl rfl
  | false =>
    refine .inr (List.all_eq_true.1 named c.toLower ?_)
    rw [Text.lowerAscii, String.toList_ofList]
    exact List.mem_map_of_mem (Text.mem_trim mem blank)

/-- The blanks of ISO 8859-1 beyond ASCII would continue a character of UTF-8. -/
theorem lt_of_mem_spelling {spelling : String} {charset : Charset}
    (known : ofName? spelling = some charset) {c : Char} (mem : c ∈ spelling.toList)
    (small : c.toNat < 0x100) (beyond : ¬IsAscii c) : c.toNat < 0xC0 := by
  rcases of_mem_spelling known mem with blank | plain
  · simp only [isBlank, Bool.or_eq_true, Bool.and_eq_true, decide_eq_true_eq, beq_iff_eq] at blank
    omega
  · rw [Text.toLower_of_not_isAscii beyond, isNameChar, Bool.or_eq_true, beq_iff_eq] at plain
    rcases plain with letter | dash
    · exact absurd (Text.isPrintable_of_isAlphanum letter).isAscii beyond
    · exact absurd (by rw [dash, IsAscii]; decide) beyond

end RestService.Charset
