import RestService.Proofs.Xml.Declaration
import RestService.Proofs.Xml.Value
import RestService.Representation.Codec

set_option autoImplicit false

namespace RestService.XmlElement

/-- Values that a document can tell: a resource goes by its type, a list by the name of the
collection. -/
def RepresentableRoot (cx : CodecContext) : Value → Prop
  | .resource typeName fields =>
    Representable cx.hints typeName (childPath "" typeName) "" (.resource typeName fields)
  | .list items =>
    Representable cx.hints cx.collection (childPath "" cx.collection) "" (.list items)
  | _ => False

/-- The root of a value says the value. -/
theorem exists_representable {cx : CodecContext} {v : Value} (shaped : RepresentableRoot cx v)
    {root : XmlElement} (made : ofRoot cx.collection v = .ok root) :
    ∃ name, Representable cx.hints name (childPath "" name) "" v ∧ ofValue name v = .ok root := by
  unfold RepresentableRoot at shaped
  split at shaped
  · exact ⟨_, shaped, made⟩
  · exact ⟨_, shaped, made⟩
  · cases shaped

theorem rootValue_ofRoot {cx : CodecContext} {v : Value} (shaped : RepresentableRoot cx v)
    {root : XmlElement} (made : ofRoot cx.collection v = .ok root) :
    rootValue cx.hints root = v := by
  obtain ⟨name, told, made⟩ := exists_representable shaped made
  rw [rootValue, name_ofValue made, toValue_ofValue told made]

theorem format_eq_ok {cx : CodecContext} {charset : String} {v : Value} {body : ByteArray} :
    Codec.xml.format cx charset v = .ok body ↔
      ∃ root known, ofRoot cx.collection v = .ok root ∧ Charset.ofName? charset = some known ∧
        known.encode (write charset root) = .ok body := by
  simp only [Codec.format, formatBody]
  constructor
  · intro formatted
    split at formatted
    · cases formatted
    · rename_i root made
      obtain ⟨known, named, encoded⟩ := Result.bind_eq_ok.1 formatted
      exact ⟨root, known, made, Charset.ofName_eq_ok.1 named, encoded⟩
  · rintro ⟨root, known, made, named, encoded⟩
    rw [made]
    exact Result.bind_eq_ok.2 ⟨known, Charset.ofName_eq_ok.2 named, encoded⟩

/-- The name of a charset has nothing in it that would end the declaration or the quotes. -/
theorem not_mem_charset {charset : String} {known : Charset}
    (named : Charset.ofName? charset = some known) : '>' ∉ charset.toList ∧ '"' ∉ charset.toList :=
  ⟨fun mem => absurd (Charset.of_mem_spelling named mem) (by decide),
    fun mem => absurd (Charset.of_mem_spelling named mem) (by decide)⟩

theorem toList_write (charset : String) (root : XmlElement) :
    (write charset root).toList =
      (declaration charset).toList ++ (written 0 root ++ ['\n']) := by
  rw [write, String.toList_ofList, List.append_assoc]

section Body

variable {charset : String} {known : Charset} {root : XmlElement} {body : ByteArray}

theorem decode_of_encode (encoded : known.encode (write charset root) = .ok body) :
    known.decode body = .ok (write charset root) := by
  refine Charset.decode_encode encoded ?_
  have whole : (write charset root).toList =
      ['<'] ++ ((declaration charset).toList.tail ++ (written 0 root ++ ['\n'])) := by
    rw [toList_write, toList_declaration]
    rfl
  obtain ⟨rest, bytes⟩ := Charset.exists_toList_encode encoded whole (by simp [Text.IsAscii])
  rw [bytes]
  simp [Charset.byteOrderMark]

/-- The bytes of a document start with those that its declaration has in UTF-8, in every charset in
which the name of the charset reads as in UTF-8. -/
theorem exists_toList_of_encode (encoded : known.encode (write charset root) = .ok body)
    (ascii : known = .latin1 → ∀ c ∈ charset.toList, Text.IsAscii c) :
    ∃ rest, body.toList = (declaration charset).toUTF8.toList ++ rest := by
  have front (named : ∀ c ∈ charset.toList, Text.IsAscii c) :
      ∃ rest, body.toList = (declaration charset).toUTF8.toList ++ rest := by
    have all : ∀ c ∈ (declaration charset).toList, Text.IsAscii c := by
      rw [toList_declaration]
      refine List.forall_mem_append.2 ⟨?_, List.forall_mem_append.2 ⟨named, ?_⟩⟩
      · simp [Text.IsAscii]
      · simp [Text.IsAscii]
    rw [Text.toList_toUTF8_of_isAscii all]
    exact Charset.exists_toList_encode encoded (toList_write charset root) all
  cases known with
  | utf8 =>
    rw [← Except.ok.inj encoded, Text.toList_toUTF8, Text.toList_toUTF8, toList_write,
      List.flatMap_append]
    exact ⟨_, rfl⟩
  | usAscii =>
    refine front fun c mem => Charset.isAscii_of_encode encoded c ?_
    rw [toList_write, toList_declaration]
    simp [mem]
  | latin1 => exact front (ascii rfl)

end Body

/-- A document is read as its value by the charset that it is written in. -/
theorem parse_of_encode {cx : CodecContext} {charset : String} {known : Charset} {v : Value}
    {root : XmlElement} {body : ByteArray} {charset? : Option String}
    (made : ofRoot cx.collection v = .ok root) (told : RepresentableRoot cx v)
    (plain : ∀ name ∈ names root, isPlainName name = true)
    (named : Charset.ofName? charset = some known)
    (encoded : known.encode (write charset root) = .ok body)
    (chosen : charset?.getD ((declaredEncoding? body).getD Charset.utf8.name) = charset) :
    Codec.xml.parse cx charset? body = .ok v := by
  obtain ⟨name, shaped, inner⟩ := exists_representable told made
  have tag := (not_mem_charset named).1
  have clean := clean_ofValue shaped inner plain
  have found := read_write clean.legible tag
  rw [clean.trimmed_eq] at found
  have decoded : decodeText charset body = .ok (write charset root) := by
    rw [decodeText, Charset.ofName_eq_ok.2 named]
    exact decode_of_encode encoded
  simp only [Codec.parse, parseBody, chosen, decoded, found, bind, Except.bind, pure, Except.pure,
    rootValue_ofRoot told made]

/-- A document in ISO 8859-1 is not read if its declaration cannot say so. -/
theorem parse_none_ne {cx : CodecContext} {charset : String} {root : XmlElement}
    {body : ByteArray} (named : Charset.ofName? charset = some .latin1)
    (encoded : Charset.latin1.encode (write charset root) = .ok body)
    (beyond : ∃ c ∈ charset.toList, ¬Text.IsAscii c) (v : Value) :
    Codec.xml.parse cx none body ≠ .ok v := by
  obtain ⟨small, bytes⟩ := Charset.of_encode_latin1 encoded
  have continues : ∀ c ∈ charset.toList, ¬Text.IsAscii c → c.toNat < 0xC0 := by
    refine fun c mem => Charset.lt_of_mem_spelling named mem (small c ?_)
    rw [toList_write, toList_declaration]
    simp [mem]
  have layout : body.toList = ((opening charset).toList.map fun c => UInt8.ofNat c.toNat) ++
      0x3F :: 0x3E :: (written 0 root ++ ['\n']).map fun c => UInt8.ofNat c.toNat := by
    rw [bytes, toList_write, toList_declaration_of_opening, List.append_assoc,
      List.map_append]
    rfl
  have unmarked : Charset.withoutMark body = body := by
    obtain ⟨more, start⟩ := exists_map_opening charset
    refine Charset.withoutMark_of_ne ?_
    rw [layout, start]
    simp [Charset.byteOrderMark]
  have undeclared := declaredEncoding?_eq_none (not_mem_charset named).1 beyond continues layout
  have unread : ∃ e, Text.decodeUtf8 body = .error e := by
    rw [Text.decodeUtf8, fromUTF8?_of_opening beyond continues layout]
    exact ⟨_, rfl⟩
  obtain ⟨e, failed⟩ := unread
  have refused : ∃ e, decodeText Charset.utf8.name body = .error e := by
    rw [decodeText, Charset.ofName_eq_ok.2 (Charset.ofName?_name .utf8)]
    simp only [bind, Except.bind, Charset.decode, unmarked, failed]
    exact ⟨_, rfl⟩
  obtain ⟨e, failed⟩ := refused
  simp only [Codec.parse, parseBody, undeclared, Option.getD_none, failed]
  intro read
  cases read

/-- What XML can tell of a value comes back from its document by the charset that is named beside
the document. It comes back by the declaration too, unless this is in ISO 8859-1 and gives that
charset a name with blanks beyond ASCII around it: declarations are read as UTF-8. -/
theorem parse_format {cx : CodecContext} {charset : String} {v : Value} {body : ByteArray}
    (told : RepresentableRoot cx v)
    (plain : ∀ root, ofRoot cx.collection v = .ok root → ∀ name ∈ names root,
      isPlainName name = true)
    (formatted : Codec.xml.format cx charset v = .ok body) :
    Codec.xml.parse cx (some charset) body = .ok v ∧
      (Codec.xml.parse cx none body = .ok v ↔
        (Charset.ofName? charset = some .latin1 → ∀ c ∈ charset.toList, Text.IsAscii c)) := by
  obtain ⟨root, known, made, named, encoded⟩ := format_eq_ok.1 formatted
  refine ⟨parse_of_encode made told (plain root made) named encoded rfl, fun read latin => ?_,
    fun ascii => ?_⟩
  · obtain rfl : known = .latin1 := Option.some.inj (named.symm.trans latin)
    intro c mem
    refine Nat.lt_of_not_le fun large => ?_
    exact parse_none_ne named encoded ⟨c, mem, Nat.not_lt.2 large⟩ v read
  · refine parse_of_encode made told (plain root made) named encoded ?_
    obtain ⟨rest, bytes⟩ := exists_toList_of_encode encoded fun latin => ascii (latin ▸ named)
    obtain ⟨tag, quote⟩ := not_mem_charset named
    rw [declaredEncoding?_of_declaration bytes tag quote]
    rfl

/-- Hints for books: reviews are a list even if there is one, and an author is a person. -/
def bookContext : CodecContext where
  hints := [⟨"/book/reviews", { sequence := true }⟩, ⟨"author", { typeName? := some "person" }⟩]
  collection := "books"

def book : Value :=
  .resource "book" [
    ("author", .resource "person" [("name", .text "Zoë & Ann")]),
    ("reviews", .list [.resource "review" [("comment", .text "Great")]]),
    ("year", .null)]

def bookDocument : String :=
  "<?xml version=\"1.0\" encoding=\"utf8\"?>\n<book>\n  <author>\n    <name>Zoë &amp; Ann</name>\n"
    ++ "  </author>\n  <reviews>\n    <review>\n      <comment>Great</comment>\n    </review>\n"
    ++ "  </reviews>\n  <year/>\n</book>\n"

theorem parse_format_books :
    Codec.xml.format bookContext "utf8" book = .ok bookDocument.toUTF8
      ∧ Codec.xml.parse bookContext (some "utf8") bookDocument.toUTF8 = .ok book
      ∧ Codec.xml.parse bookContext none bookDocument.toUTF8 = .ok book := by
  have person : Representable bookContext.hints "author" "/book/author" "/book/author"
      (.resource "person" [("name", .text "Zoë & Ann")]) :=
    .resource (by decide) (by decide) (by decide +kernel) (by decide +kernel)
      (List.forall_mem_singleton.2 (.text (by decide) (by decide +kernel)))
  have review : Representable bookContext.hints "review" "/book/reviews/review"
      "/book/reviews/review" (.resource "review" [("comment", .text "Great")]) :=
    .resource (by decide) (by decide) (by decide +kernel) (by decide +kernel)
      (List.forall_mem_singleton.2 (.text (by decide) (by decide +kernel)))
  have reviews : Representable bookContext.hints "reviews" "/book/reviews" "/book/reviews"
      (.list [.resource "review" [("comment", .text "Great")]]) :=
    .list (by decide) (.inl (by decide +kernel)) (List.forall_mem_singleton.2 review)
  have told : RepresentableRoot bookContext book :=
    .resource (by decide) (by decide) (by decide +kernel) (by decide +kernel)
      (List.forall_mem_cons.2 ⟨person, List.forall_mem_cons.2 ⟨reviews,
        List.forall_mem_singleton.2 .null⟩⟩)
  have plain : ∀ root, ofRoot bookContext.collection book = .ok root →
      ∀ name ∈ names root, isPlainName name = true := by
    intro root made
    rw [← Except.ok.inj made]
    decide
  have formatted : Codec.xml.format bookContext "utf8" book = .ok bookDocument.toUTF8 := by
    have written : ∃ root, ofRoot bookContext.collection book = .ok root
        ∧ write "utf8" root = bookDocument := ⟨_, rfl, by decide +kernel⟩
    obtain ⟨root, made, text⟩ := written
    refine format_eq_ok.2 ⟨root, .utf8, made, by decide +kernel, ?_⟩
    rw [text]
    rfl
  obtain ⟨named, unnamed⟩ := parse_format told plain formatted
  exact ⟨formatted, named, unnamed.2 fun other => absurd other (by decide +kernel)⟩

/-- The declaration cannot say the charset if blanks beyond ASCII stand around its name. -/
theorem exists_parse_none_ne :
    ∃ (cx : CodecContext) (charset : String) (v : Value) (body : ByteArray),
      RepresentableRoot cx v
        ∧ (∀ root, ofRoot cx.collection v = .ok root → ∀ name ∈ names root,
          isPlainName name = true)
        ∧ Charset.ofName? charset = some .latin1
        ∧ Codec.xml.format cx charset v = .ok body
        ∧ Codec.xml.parse cx none body ≠ .ok v := by
  let document :=
    "<?xml version=\"1.0\" encoding=\"\u00A0latin1\"?>\n<book>\n  <title/>\n</book>\n"
  let body : ByteArray := ⟨(document.toList.map fun c => UInt8.ofNat c.toNat).toArray⟩
  have named : Charset.ofName? "\u00A0latin1" = some .latin1 := by decide +kernel
  have formatted : Codec.xml.format ⟨[], "books"⟩ "\u00A0latin1"
      (.resource "book" [("title", .null)]) = .ok body := by decide +kernel
  refine ⟨⟨[], "books"⟩, "\u00A0latin1", .resource "book" [("title", .null)], body, ?_, ?_,
    named, formatted, ?_⟩
  · exact .resource (by decide) (by decide) rfl rfl (List.forall_mem_singleton.2 .null)
  · intro root made
    rw [← Except.ok.inj made]
    decide
  · obtain ⟨root, known, -, same, encoded⟩ := format_eq_ok.1 formatted
    obtain rfl : known = .latin1 := Option.some.inj (same.symm.trans named)
    exact parse_none_ne named encoded ⟨'\u00A0', by decide, by simp [Text.IsAscii]⟩ _

end RestService.XmlElement
