import RestService.Proofs.Representation.Charset

set_option autoImplicit false

namespace RestService.Charset

/-- The character that a byte order mark stands for. -/
def markChar : Char := '\uFEFF'

/-- The characters of a text as they are read back: UTF-8 loses one mark at the front. -/
def unmarkedChars : Charset → List Char → List Char
  | utf8, cs => if cs.head? = some markChar then cs.tail else cs
  | usAscii, cs | latin1, cs => cs

/-- The bytes of a text as they are written again: UTF-8 loses one mark at the front. -/
def unmarkedBytes : Charset → List UInt8 → List UInt8
  | utf8, bytes => if byteOrderMark <+: bytes then bytes.drop 3 else bytes
  | usAscii, bytes | latin1, bytes => bytes

/-- A charset has a character. -/
def Has : Charset → Char → Prop
  | utf8, _ => True
  | usAscii, c => c.toNat ≤ 0x7F
  | latin1, c => c.toNat ≤ 0xFF

/-- Bytes stand for no text, not even behind a mark. -/
def IsMalformed : Charset → ByteArray → Prop
  | utf8, bytes => ¬ByteArray.IsValidUTF8 ⟨(unmarkedBytes utf8 bytes.toList).toArray⟩
  | usAscii, bytes => ∃ b ∈ bytes.toList, 0x80 ≤ b
  | latin1, _ => False

section Mark

theorem withoutMark_eq_unmarkedBytes (bytes : ByteArray) :
    withoutMark bytes = ⟨(unmarkedBytes utf8 bytes.toList).toArray⟩ := by
  have front_iff : byteOrderMark <+: bytes.toList ↔ bytes.toList.take 3 = byteOrderMark := by
    rw [List.prefix_iff_eq_take]
    exact eq_comm
  rw [withoutMark_eq, unmarkedBytes]
  by_cases marked : bytes.toList.take 3 = byteOrderMark
  · rw [if_pos marked, if_pos (front_iff.2 marked)]
  · rw [if_neg marked, if_neg fun front => marked (front_iff.1 front), Text.mk_toList]

theorem utf8EncodeChar_markChar : String.utf8EncodeChar markChar = byteOrderMark := by
  decide

/-- A text whose bytes start with the mark starts with the character. -/
theorem eq_markChar_of_marked {c : Char} {cs : List Char}
    (marked : byteOrderMark <+: (c :: cs).flatMap String.utf8EncodeChar) : c = markChar := by
  obtain ⟨rest, bytes⟩ := marked
  -- The first character that these bytes tell is `c`, and by their front it is the mark.
  have first : ByteArray.utf8DecodeChar? (c :: cs).utf8Encode 0 = some c :=
    List.utf8DecodeChar?_utf8Encode_cons
  rw [List.utf8Encode, ← bytes, ← utf8EncodeChar_markChar, List.toByteArray_append,
    ByteArray.utf8DecodeChar?_utf8EncodeChar_append] at first
  exact (Option.some.inj first).symm

/-- The bytes lose the mark exactly if the text loses its character. -/
theorem unmarkedBytes_flatMap (cs : List Char) :
    unmarkedBytes utf8 (cs.flatMap String.utf8EncodeChar)
      = (unmarkedChars utf8 cs).flatMap String.utf8EncodeChar := by
  cases cs with
  | nil => rfl
  | cons c cs =>
    simp only [unmarkedBytes, unmarkedChars, List.head?_cons, Option.some_inj]
    by_cases marked : c = markChar
    · have front : byteOrderMark <+: (c :: cs).flatMap String.utf8EncodeChar := by
        rw [marked, List.flatMap_cons, utf8EncodeChar_markChar]
        exact List.prefix_append _ _
      rw [if_pos marked, if_pos front, marked, List.flatMap_cons, utf8EncodeChar_markChar]
      rfl
    · rw [if_neg marked, if_neg fun front => marked (eq_markChar_of_marked front)]

theorem withoutMark_toUTF8 (text : String) :
    withoutMark text.toUTF8 = (String.ofList (unmarkedChars utf8 text.toList)).toUTF8 := by
  rw [withoutMark_eq_unmarkedBytes, Text.toList_toUTF8, unmarkedBytes_flatMap,
    ← Text.mk_toList (String.toUTF8 (String.ofList _)), Text.toList_toUTF8, String.toList_ofList]

end Mark

section Reading

variable {text : String} {bytes : ByteArray}

theorem decode_utf8_eq_ok :
    utf8.decode bytes = .ok text ↔ text.toUTF8 = withoutMark bytes := by
  have read : utf8.decode bytes = .ok text ↔ Text.decodeUtf8 (withoutMark bytes) = .ok text := by
    rw [decode]
    cases Text.decodeUtf8 (withoutMark bytes) <;> simp
  rw [read, Text.decodeUtf8_eq_ok_iff]
  constructor
  · exact Text.toUTF8_of_fromUTF8?
  · intro same
    rw [← same, Text.fromUTF8?_toUTF8]

theorem decode_usAscii_eq_ok : usAscii.decode bytes = .ok text
    ↔ (∀ b ∈ bytes.toList, b < 0x80) ∧ directText bytes = text := by
  rw [decode]
  split
  · rename_i place found
    obtain ⟨inside, beyond, -⟩ := List.findIdx?_eq_some_iff_getElem.1 found
    constructor
    · rintro ⟨⟩
    · rintro ⟨small, -⟩
      have less := small _ (List.getElem_mem inside)
      exact absurd less (UInt8.not_lt.2 (of_decide_eq_true beyond))
  · rename_i none
    have small : ∀ b ∈ bytes.toList, b < 0x80 := by
      intro b mem
      have within := List.findIdx?_eq_none_iff.1 none b mem
      exact UInt8.not_le.1 (of_decide_eq_false within)
    rw [Except.ok.injEq]
    exact ⟨fun same => ⟨small, same⟩, fun both => both.2⟩

/-- The characters whose numbers are the bytes are written as these bytes. -/
theorem encodeBelow_directText {charset : Charset} {bound : ℕ}
    (small : ∀ b ∈ bytes.toList, b.toNat < bound) :
    encodeBelow charset bound (directText bytes).toList = .ok bytes.toList := by
  rw [encodeBelow_eq_ok, directText, String.toList_ofList, List.forall_mem_map, List.map_map]
  constructor
  · intro b mem
    rw [Text.toNat_ofNat_toNat]
    exact small b mem
  · have same : ∀ b : UInt8, UInt8.ofNat (Char.ofNat b.toNat).toNat = b := by
      intro b
      rw [Text.toNat_ofNat_toNat, UInt8.ofNat_toNat]
    exact (List.map_congr_left fun b _ => same b).trans (List.map_id _)

end Reading

section Inverse

variable {charset : Charset} {text : String} {bytes : ByteArray}

/-- A text has bytes exactly if the charset has all its characters. -/
theorem exists_encode_iff :
    (∃ bytes, charset.encode text = .ok bytes) ↔ ∀ c ∈ text.toList, charset.Has c := by
  have below_iff {bound : ℕ} : (∃ bytes, encodeBelow charset bound text.toList = .ok bytes)
      ↔ ∀ c ∈ text.toList, c.toNat < bound := by
    simp only [encodeBelow_eq_ok, exists_and_left, exists_eq', and_true]
  cases charset with
  | utf8 => exact ⟨fun _ _ _ => trivial, fun _ => ⟨_, rfl⟩⟩
  | usAscii | latin1 =>
    rw [encode, Result.exists_map_eq_ok, below_iff]
    exact forall₂_congr fun c _ => Nat.lt_succ_iff

/-- A text is read back from its bytes, but for a mark. -/
theorem decode_of_encode (encoded : charset.encode text = .ok bytes) :
    charset.decode bytes = .ok (String.ofList (charset.unmarkedChars text.toList)) := by
  cases charset with
  | utf8 =>
    cases encoded
    exact decode_utf8_eq_ok.2 (withoutMark_toUTF8 text).symm
  | usAscii | latin1 =>
    rw [unmarkedChars, String.ofList_toList]
    exact decode_encode_of_ne_utf8 (by decide) encoded

/-- Bytes are written again as they were read, but for a mark. -/
theorem encode_of_decode (decoded : charset.decode bytes = .ok text) :
    charset.encode text = .ok ⟨(charset.unmarkedBytes bytes.toList).toArray⟩ := by
  cases charset with
  | utf8 => rw [encode, decode_utf8_eq_ok.1 decoded, withoutMark_eq_unmarkedBytes]
  | usAscii =>
    obtain ⟨small, rfl⟩ := decode_usAscii_eq_ok.1 decoded
    have below : ∀ b ∈ bytes.toList, b.toNat < 0x80 := fun b mem =>
      UInt8.lt_iff_toNat_lt.1 (small b mem)
    rw [encode, encodeBelow_directText below]
    rfl
  | latin1 =>
    cases decoded
    have below : ∀ b ∈ bytes.toList, b.toNat < 0x100 := fun b _ => b.toNat_lt
    rw [encode, encodeBelow_directText below]
    rfl

/-- Bytes fail to tell a text exactly if they are malformed. -/
theorem exists_decode_error_iff :
    (∃ problem, charset.decode bytes = .error problem) ↔ charset.IsMalformed bytes := by
  rw [Result.exists_error_iff]
  cases charset with
  | utf8 =>
    rw [IsMalformed, ← withoutMark_eq_unmarkedBytes]
    refine not_congr ((exists_congr fun _ => decode_utf8_eq_ok).trans ?_)
    constructor
    · rintro ⟨text, same⟩
      exact same ▸ text.isValidUTF8
    · intro valid
      exact ⟨String.fromUTF8 _ valid, rfl⟩
  | usAscii =>
    simp only [decode_usAscii_eq_ok, exists_and_left, exists_eq', and_true, IsMalformed]
    push Not
    simp only [UInt8.not_lt]
  | latin1 => exact ⟨fun none => none ⟨_, rfl⟩, False.elim⟩

end Inverse

/-- Under every name of a charset, texts of characters that it has are written, and read back but
for a mark; bytes that are not malformed are read, and written again but for a mark. -/
theorem inverse_up_to_mark {spelling : String} {charset : Charset}
    (known : canonical? spelling = some charset.name) :
    (∀ text, ((∃ bytes, encodeText spelling text = .ok bytes)
        ↔ ∀ c ∈ text.toList, charset.Has c)
      ∧ ∀ bytes, encodeText spelling text = .ok bytes →
        decodeText spelling bytes = .ok (String.ofList (charset.unmarkedChars text.toList)))
    ∧ ∀ bytes, ((∃ problem, decodeText spelling bytes = .error problem)
        ↔ charset.IsMalformed bytes)
      ∧ ∀ text, decodeText spelling bytes = .ok text →
        encodeText spelling text = .ok ⟨(charset.unmarkedBytes bytes.toList).toArray⟩ := by
  obtain ⟨other, found, same⟩ := Option.map_eq_some_iff.1 known
  obtain rfl : other = charset := by
    have injective : ∀ first second : Charset, first.name = second.name → first = second := by
      intro first second
      cases first <;> cases second <;> decide
    exact injective other charset same
  have writes (text : String) : encodeText spelling text = other.encode text := by
    rw [encodeText, ofName_eq_ok.2 found]
    rfl
  have reads (bytes : ByteArray) : decodeText spelling bytes = other.decode bytes := by
    rw [decodeText, ofName_eq_ok.2 found]
    rfl
  simp only [writes, reads]
  exact ⟨fun text => ⟨exists_encode_iff, fun bytes => decode_of_encode⟩,
    fun bytes => ⟨exists_decode_error_iff, fun text => encode_of_decode⟩⟩

/-- Of two marks UTF-8 drops one, and ISO 8859-1 knows none. -/
theorem inverse_up_to_mark_marks :
    (∃ bytes, encodeText "UTF8" "\uFEFF\uFEFFé" = .ok bytes
      ∧ decodeText "UTF8" bytes = .ok "\uFEFFé")
    ∧ (∃ problem, decodeText " ascii" ⟨#[0x61, 0xE9]⟩ = .error problem)
    ∧ encodeText "Latin-1" "ï»¿é" = .ok ⟨#[0xEF, 0xBB, 0xBF, 0xE9]⟩ := by
  have asUtf8 : canonical? "UTF8" = some utf8.name := by decide +kernel
  have asAscii : canonical? " ascii" = some usAscii.name := by decide +kernel
  have asLatin1 : canonical? "Latin-1" = some latin1.name := by decide +kernel
  obtain ⟨texts, -⟩ := inverse_up_to_mark asUtf8
  obtain ⟨written, back⟩ := texts "\uFEFF\uFEFFé"
  obtain ⟨bytes, encoded⟩ := written.2 fun _ _ => trivial
  refine ⟨⟨bytes, encoded, back bytes encoded⟩, ?_, ?_⟩
  · refine ((inverse_up_to_mark asAscii).2 ⟨#[0x61, 0xE9]⟩).1.2 ⟨0xE9, ?_, ?_⟩
    · rw [Text.toList_eq_data]
      decide
    · decide
  · have decoded : decodeText "Latin-1" ⟨#[0xEF, 0xBB, 0xBF, 0xE9]⟩ = .ok "ï»¿é" :=
      Result.toOption_eq_some.1 (by decide +kernel)
    have again := ((inverse_up_to_mark asLatin1).2 _).2 _ decoded
    rw [Text.toList_eq_data] at again
    exact again

end RestService.Charset
