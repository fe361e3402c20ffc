import RestService.Proofs.Representation.Charset
import RestService.Proofs.Text.Bytes
import RestService.Proofs.Text.Pieces
import RestService.Xml.Value

set_option autoImplicit false

namespace RestService.XmlElement

/-- The declaration of a document up to the question mark at its end. -/
def opening (charset : String) : String :=
  String.ofList ("<?xml version=\"1.0\" encoding=\"".toList ++ (charset.toList ++ ['"']))

theorem toList_opening (charset : String) :
    (opening charset).toList =
      "<?xml version=\"1.0\" encoding=\"".toList ++ (charset.toList ++ ['"']) :=
  String.toList_ofList

theorem toList_declaration_of_opening (charset : String) :
    (declaration charset).toList = (opening charset).toList ++ ['?', '>'] := by
  rw [toList_declaration, toList_opening, List.append_assoc, List.append_assoc]
  rfl

/-- The bytes of the declaration are those of its opening and of its end. -/
theorem toUTF8_declaration (charset : String) :
    (declaration charset).toUTF8.toList = (opening charset).toUTF8.toList ++ [0x3F, 0x3E] := by
  rw [Text.toList_toUTF8, Text.toList_toUTF8, toList_declaration_of_opening, List.flatMap_append]
  rfl

theorem declarationBytes_append {front : List UInt8} (free : (0x3E : UInt8) ∉ front)
    (rest : List UInt8) : declarationBytes (front ++ 0x3F :: 0x3E :: rest) = some front := by
  induction front with
  | nil => rfl
  | cons b front ih =>
    obtain ⟨here, later⟩ := not_or.1 (mt List.mem_cons.2 free)
    -- A question mark in front ends nothing, as no angle bracket follows it there.
    have next : ∀ more, front ++ 0x3F :: 0x3E :: rest ≠ 0x3E :: more := by
      intro more same
      cases front with
      | nil => simp at same
      | cons first front =>
        rw [List.cons_append, List.cons.injEq] at same
        rw [same.1] at later
        exact later List.mem_cons_self
    rw [List.cons_append]
    unfold declarationBytes
    split
    · rename_i more same
      exact absurd (List.cons.inj same).2 (next more)
    · rename_i b' bs _ same
      cases same
      rw [ih later]
      rfl
    · rename_i same
      cases same

/-- No byte of a text is an angle bracket unless it stands for one. -/
theorem not_mem_toUTF8 {s : String} (free : '>' ∉ s.toList) : (0x3E : UInt8) ∉ s.toUTF8.toList := by
  rw [Text.toList_toUTF8]
  intro mem
  obtain ⟨c, inside, byte⟩ := List.mem_flatMap.1 mem
  by_cases ascii : Text.IsAscii c
  · rw [Text.utf8EncodeChar_of_isAscii ascii, List.mem_singleton] at byte
    have same : '>' = c := Text.eq_of_byte_eq (by decide) (Nat.lt_trans ascii (by decide)) byte
    exact free (same ▸ inside)
  · exact absurd (Text.le_of_mem_utf8EncodeChar ascii byte) (by decide)

theorem quotedValue?_of_free {cs : List Char} (free : '"' ∉ cs) :
    quotedValue? ("=\"".toList ++ (cs ++ ['"'])) = some cs := by
  have solid : Text.trimLeft ("=\"".toList ++ (cs ++ ['"'])) = '=' :: '"' :: (cs ++ ['"']) := rfl
  have quote : Text.trimLeft ('"' :: (cs ++ ['"'])) = '"' :: (cs ++ ['"']) := rfl
  rw [quotedValue?, solid]
  simp only [quote, true_or, if_true, Text.cutAt_append free]
  rfl

/-- The encoding that a declaration names, without the end of the declaration. -/
def namedIn (text : String) : Option String := do
  let cs ← XmlEvent.after? "<?xml".toList text.toList
  return String.ofList (← quotedValue? (← afterFirst? "encoding".toList cs))

theorem namedIn_opening {charset : String} (quote : '"' ∉ charset.toList) :
    namedIn (opening charset) = some charset := by
  have started : XmlEvent.after? "<?xml".toList (opening charset).toList =
      some (" version=\"1.0\" encoding=\"".toList ++ (charset.toList ++ ['"'])) := by
    rw [toList_opening]
    rfl
  have found : afterFirst? "encoding".toList
      (" version=\"1.0\" encoding=\"".toList ++ (charset.toList ++ ['"'])) =
      some ("=\"".toList ++ (charset.toList ++ ['"'])) := rfl
  simp only [namedIn, started, found, quotedValue?_of_free quote, Option.bind_eq_bind,
    Option.bind_some, String.ofList_toList]
  rfl

/-- What a body that starts with an angle bracket declares is said ahead of the first `?>`. -/
theorem declaredEncoding?_eq {body : ByteArray} {front rest : List UInt8}
    (layout : body.toList = 0x3C :: front ++ 0x3F :: 0x3E :: rest) (free : 0x3E ∉ front) :
    declaredEncoding? body = (String.fromUTF8? ⟨(0x3C :: front).toArray⟩).bind namedIn := by
  have unmarked : Charset.withoutMark body = body := by
    refine Charset.withoutMark_of_ne ?_
    rw [layout]
    simp [Charset.byteOrderMark]
  have solid : body.toList.dropWhile isSpaceByte = body.toList := by
    rw [layout]
    rfl
  have cut : declarationBytes body.toList = some (0x3C :: front) := by
    rw [layout, declarationBytes_append (List.not_mem_cons_of_ne_of_not_mem (by decide) free)]
  simp only [declaredEncoding?, unmarked, solid, cut]
  rfl

/-- The declaration of a body names the charset. -/
theorem declaredEncoding?_of_declaration {charset : String} {body : ByteArray} {rest : List UInt8}
    (bytes : body.toList = (declaration charset).toUTF8.toList ++ rest)
    (tag : '>' ∉ charset.toList) (quote : '"' ∉ charset.toList) :
    declaredEncoding? body = some charset := by
  have free : '>' ∉ (opening charset).toList := by
    rw [toList_opening]
    simp [tag]
  have start : ∃ more, (opening charset).toUTF8.toList = 0x3C :: more := by
    rw [Text.toList_toUTF8, toList_opening, List.flatMap_append]
    exact ⟨_, rfl⟩
  obtain ⟨more, front⟩ := start
  have layout : body.toList = 0x3C :: more ++ 0x3F :: 0x3E :: rest := by
    rw [bytes, toUTF8_declaration, front, List.append_assoc]
    rfl
  have inside : 0x3E ∉ more := by
    have none := not_mem_toUTF8 free
    rw [front] at none
    exact List.not_mem_of_not_mem_cons none
  rw [declaredEncoding?_eq layout inside, ← front, Text.mk_toList, Text.fromUTF8?_toUTF8]
  exact namedIn_opening quote

theorem mem_opening {charset : String} {c : Char} (mem : c ∈ (opening charset).toList) :
    c ∈ charset.toList ∨ Text.IsAscii c ∧ c ≠ '>' := by
  have front : "<?xml version=\"1.0\" encoding=\"".toList.all
      (fun c => decide (c.toNat < 0x80 ∧ c ≠ '>')) = true := by decide
  rw [toList_opening, List.mem_append, List.mem_append, List.mem_singleton] at mem
  rcases mem with here | named | quote
  · have seen : c.toNat < 0x80 ∧ c ≠ '>' := of_decide_eq_true (List.all_eq_true.1 front c here)
    exact .inr seen
  · exact .inl named
  · rw [quote]
    exact .inr ⟨by simp [Text.IsAscii], by decide⟩

theorem exists_map_opening (charset : String) :
    ∃ more, ((opening charset).toList.map fun c => UInt8.ofNat c.toNat) = 0x3C :: more := by
  rw [toList_opening]
  exact ⟨_, rfl⟩

section Latin1

variable {charset : String} {bytes : ByteArray} {rest : List UInt8}

/-- In ISO 8859-1, the opening of a declaration is no UTF-8 if the name of the charset is not. -/
theorem fromUTF8?_of_opening (beyond : ∃ c ∈ charset.toList, ¬Text.IsAscii c)
    (continues : ∀ c ∈ charset.toList, ¬Text.IsAscii c → c.toNat < 0xC0)
    (layout : bytes.toList = ((opening charset).toList.map fun c => UInt8.ofNat c.toNat) ++ rest) :
    String.fromUTF8? bytes = none := by
  refine Text.fromUTF8?_eq_none_of_beyond ?_ (fun c mem large => ?_) layout
  · obtain ⟨c, mem, large⟩ := beyond
    refine ⟨c, ?_, large⟩
    rw [toList_opening]
    simp [mem]
  · rcases mem_opening mem with named | ⟨ascii, -⟩
    · exact continues c named large
    · exact absurd ascii large

/-- Such a declaration names nothing. -/
theorem declaredEncoding?_eq_none (tag : '>' ∉ charset.toList)
    (beyond : ∃ c ∈ charset.toList, ¬Text.IsAscii c)
    (continues : ∀ c ∈ charset.toList, ¬Text.IsAscii c → c.toNat < 0xC0)
    (layout : bytes.toList =
      ((opening charset).toList.map fun c => UInt8.ofNat c.toNat) ++ 0x3F :: 0x3E :: rest) :
    declaredEncoding? bytes = none := by
  obtain ⟨more, start⟩ := exists_map_opening charset
  have inside : 0x3E ∉ more := by
    intro mem
    have within : 0x3E ∈ (opening charset).toList.map fun c => UInt8.ofNat c.toNat :=
      start ▸ List.mem_cons_of_mem _ mem
    obtain ⟨c, named, byte⟩ := List.mem_map.1 within
    have same (small : c.toNat < 0x100) : c = '>' := Text.eq_of_byte_eq small (by decide) byte
    rcases mem_opening named with spelled | ⟨ascii, other⟩
    · by_cases ascii : Text.IsAscii c
      · exact tag (same (Nat.lt_trans ascii (by decide)) ▸ spelled)
      · exact tag (same (Nat.lt_trans (continues c spelled ascii) (by decide)) ▸ spelled)
    · exact other (same (Nat.lt_trans ascii (by decide)))
  have front : (ByteArray.mk (0x3C :: more).toArray).toList =
      ((opening charset).toList.map fun c => UInt8.ofNat c.toNat) ++ [] := by
    rw [Text.toList_mk, start, List.append_nil]
  rw [start] at layout
  rw [declaredEncoding?_eq layout inside, fromUTF8?_of_opening beyond continues front]
  rfl

end Latin1

end RestService.XmlElement
