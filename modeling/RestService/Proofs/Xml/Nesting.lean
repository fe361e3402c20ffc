import RestService.Proofs.Representation.Charset
import RestService.Proofs.Result
import RestService.Proofs.Xml.Scan
import RestService.Xml.Value

set_option autoImplicit false

namespace RestService

namespace Text

theorem isAllBlank_append (s t : String) :
    isAllBlank (s ++ t) = true ↔ isAllBlank s = true ∧ isAllBlank t = true := by
  simp [isAllBlank]

end Text

namespace XmlElement

/-- Well-nested events, with the texts that are directly among them, joined in their order, and the
elements that they form. -/
inductive Content : List XmlEvent → String → List XmlElement → Prop
  | nil : Content [] "" []
  | text {events : List XmlEvent} {text : String} {children : List XmlElement} (s : String)
      (rest : Content events text children) : Content (.text s :: events) (s ++ text) children
  | verbatim {events : List XmlEvent} {text : String} {children : List XmlElement} (s : String)
      (rest : Content events text children) : Content (.verbatim s :: events) (s ++ text) children
  | empty {events : List XmlEvent} {text : String} {children : List XmlElement} (name : String)
      (rest : Content events text children) :
      Content (.empty name :: events) text (node name "" [] :: children)
  | element {events within : List XmlEvent} {text inner : String}
      {children grandchildren : List XmlElement} (name : String)
      (inside : Content within inner grandchildren) (rest : Content events text children) :
      Content (.start name :: (within ++ .close name :: events)) text
        (node name inner grandchildren :: children)

/-- The events are those of one element, with nothing but blanks outside. -/
def IsDocument (events : List XmlEvent) (root : XmlElement) : Prop :=
  ∃ outside, Content events outside [root] ∧ Text.isAllBlank outside = true

section Content

variable {events others : List XmlEvent} {text more : String} {children siblings : List XmlElement}

theorem Content.append (content : Content events text children)
    (after : Content others more siblings) :
    Content (events ++ others) (text ++ more) (children ++ siblings) := by
  induction content with
  | nil => simpa using after
  | text s rest ih =>
    rw [String.append_assoc]
    exact .text s ih
  | verbatim s rest ih =>
    rw [String.append_assoc]
    exact .verbatim s ih
  | empty name rest ih => exact .empty name ih
  | @element events within text inner children grandchildren name inside rest _ ih =>
    have nested := Content.element name inside ih
    simpa using nested

/-- The content of an element and its end tag behind its start tag. -/
theorem Content.enclosed (content : Content events text children) (name : String) :
    Content (.start name :: (events ++ [.close name])) "" [node name text children] :=
  .element name content .nil

/-- An element is read and attached before the events behind it, if its own events fill it. -/
theorem foldlM_element {within : List XmlEvent} {inner : String} {grandchildren : List XmlElement}
    (fills : ∀ name outer root?, within.foldlM Assembly.step ⟨node name "" [] :: outer, root?⟩
      = .ok ⟨node name inner grandchildren :: outer, root?⟩)
    (name : String) (events : List XmlEvent) (a : Assembly) :
    (.start name :: (within ++ .close name :: events)).foldlM Assembly.step a
      = a.attach (node name inner grandchildren) >>= fun a => events.foldlM Assembly.step a := by
  have opened : a.step (.start name) = .ok ⟨node name "" [] :: a.opened, a.root?⟩ := rfl
  have closed : Assembly.step ⟨node name inner grandchildren :: a.opened, a.root?⟩ (.close name)
      = a.attach (node name inner grandchildren) := if_pos rfl
  rw [List.foldlM_cons, opened]
  change (within ++ XmlEvent.close name :: events).foldlM Assembly.step _ = _
  rw [List.foldlM_append, fills]
  change (XmlEvent.close name :: events).foldlM Assembly.step _ = _
  rw [List.foldlM_cons, closed]

/-- What stands inside an element is put into it. -/
theorem Content.foldlM_inside (content : Content events text children) (name before : String)
    (elders outer : List XmlElement) (root? : Option XmlElement) :
    events.foldlM Assembly.step ⟨node name before elders :: outer, root?⟩
      = .ok ⟨node name (before ++ text) (elders ++ children) :: outer, root?⟩ := by
  induction content generalizing name before elders outer root? with
  | nil => simp [pure, Except.pure]
  | text s rest ih =>
    have appended := ih name (before ++ s) elders outer root?
    rw [String.append_assoc] at appended
    exact appended
  | verbatim s rest ih =>
    have appended := ih name (before ++ s) elders outer root?
    rw [String.append_assoc] at appended
    exact appended
  | empty child rest ih =>
    have added := ih name before (elders ++ [node child "" []]) outer root?
    rw [List.append_assoc] at added
    exact added
  | @element events within text inner children grandchildren child inside rest fills ih =>
    have filled (name : String) (outer : List XmlElement) (root? : Option XmlElement) := by
      simpa using fills name "" [] outer root?
    have added := ih name before (elders ++ [node child inner grandchildren]) outer root?
    rw [List.append_assoc] at added
    rw [foldlM_element filled]
    exact added

/-- Where one root is left at most, an element is the only one. -/
theorem alone_of_toList {root? last? : Option XmlElement} {child : XmlElement}
    {siblings : List XmlElement} (whole : root?.toList ++ child :: siblings = last?.toList) :
    root? = none ∧ last? = some child ∧ siblings = [] := by
  cases root? <;> cases last? <;> simp_all

/-- Outside all elements blanks are passed over, and one element at most becomes the root. -/
theorem Content.foldlM_outside (content : Content events text children)
    (blank : Text.isAllBlank text = true) {root? last? : Option XmlElement}
    (whole : root?.toList ++ children = last?.toList) :
    events.foldlM Assembly.step ⟨[], root?⟩ = .ok ⟨[], last?⟩ := by
  induction content generalizing root? with
  | nil =>
    obtain rfl : root? = last? := by cases root? <;> cases last? <;> simp_all
    rfl
  | text s rest ih =>
    obtain ⟨here, later⟩ := (Text.isAllBlank_append _ _).1 blank
    have passed : Assembly.step ⟨[], root?⟩ (.text s) = .ok ⟨[], root?⟩ := if_pos here
    rw [List.foldlM_cons, passed]
    exact ih later whole
  | verbatim s rest ih =>
    obtain ⟨here, later⟩ := (Text.isAllBlank_append _ _).1 blank
    have passed : Assembly.step ⟨[], root?⟩ (.verbatim s) = .ok ⟨[], root?⟩ := if_pos here
    rw [List.foldlM_cons, passed]
    exact ih later whole
  | empty name rest ih =>
    obtain ⟨rfl, rfl, rfl⟩ := alone_of_toList whole
    exact ih blank rfl
  | @element events within text inner children grandchildren name inside rest _ ih =>
    obtain ⟨rfl, rfl, rfl⟩ := alone_of_toList whole
    have filled (name : String) (outer : List XmlElement) (root? : Option XmlElement) := by
      simpa using inside.foldlM_inside name "" [] outer root?
    rw [foldlM_element filled]
    exact ih blank rfl

end Content

namespace Assembly

/-- What the events so far have come to: the text and the elements outside all elements, or, for the
innermost open one, those that stand directly inside it, behind what was there when it started. -/
inductive Reached : List XmlEvent → Assembly → Prop
  | outside {events : List XmlEvent} {text : String} {root? : Option XmlElement}
      (content : Content events text root?.toList) (blank : Text.isAllBlank text = true) :
      Reached events ⟨[], root?⟩
  | inside {before events : List XmlEvent} {opened : List XmlElement} {root? : Option XmlElement}
      {text : String} {children : List XmlElement} (name : String)
      (outer : Reached before ⟨opened, root?⟩) (content : Content events text children) :
      Reached (before ++ .start name :: events) ⟨node name text children :: opened, root?⟩

variable {before events : List XmlEvent} {a next : Assembly}

theorem Reached.attach (reached : Reached before a) {element : XmlElement}
    (content : Content events "" [element]) (put : a.attach element = .ok next) :
    Reached (before ++ events) next := by
  cases reached with
  | @outside _ text root? content' blank =>
    cases root? with
    | some root => cases put
    | none =>
      cases put
      have whole := content'.append content
      rw [String.append_empty] at whole
      exact .outside whole blank
  | @inside before within opened root? text children name outer content' =>
    cases put
    have whole := content'.append content
    rw [String.append_empty] at whole
    rw [List.append_assoc, List.cons_append]
    exact .inside name outer whole

theorem Reached.appendText (reached : Reached before a) {s : String}
    (content : Content events s []) (put : a.appendText s = .ok next) :
    Reached (before ++ events) next := by
  cases reached with
  | @outside _ text root? content' blank =>
    simp only [Assembly.appendText] at put
    split at put
    · rename_i more
      cases put
      have whole := content'.append content
      rw [List.append_nil] at whole
      exact .outside whole ((Text.isAllBlank_append text s).2 ⟨blank, more⟩)
    · cases put
  | @inside before within opened root? text children name outer content' =>
    cases put
    have whole := content'.append content
    rw [List.append_nil] at whole
    rw [List.append_assoc, List.cons_append]
    exact .inside name outer whole

/-- One more event goes with one step. -/
theorem Reached.step (reached : Reached before a) {event : XmlEvent}
    (taken : a.step event = .ok next) : Reached (before ++ [event]) next := by
  cases event with
  | start name =>
    cases taken
    exact .inside name reached .nil
  | empty name => exact reached.attach (.empty name .nil) taken
  | text s => exact reached.appendText (by simpa using Content.text s .nil) taken
  | verbatim s => exact reached.appendText (by simpa using Content.verbatim s .nil) taken
  | close name =>
    cases reached with
    | outside content blank => cases taken
    | @inside before within opened root? text children opening outer content =>
      have closing : Assembly.step ⟨node opening text children :: opened, root?⟩ (.close name)
          = if opening = name then Assembly.attach ⟨opened, root?⟩ (node opening text children)
            else .error (.mismatchedEnd name) := rfl
      rw [closing] at taken
      by_cases same : opening = name
      · subst same
        rw [if_pos rfl] at taken
        rw [List.append_assoc, List.cons_append]
        exact outer.attach (content.enclosed opening) taken
      · rw [if_neg same] at taken
        cases taken

/-- Events that have been gone through are accounted for. -/
theorem Reached.foldlM (reached : Reached before a)
    (ran : events.foldlM Assembly.step a = .ok next) : Reached (before ++ events) next := by
  induction events generalizing before a with
  | nil =>
    cases ran
    rwa [List.append_nil]
  | cons event events ih =>
    rw [List.foldlM_cons] at ran
    obtain ⟨middle, taken, later⟩ := Result.bind_eq_ok.1 ran
    have rest := ih (reached.step taken) later
    rwa [List.append_assoc] at rest

/-- In the end nothing is open, and there is a root. -/
theorem finish_eq_ok_iff {root : XmlElement} : a.finish = .ok root ↔ a = ⟨[], some root⟩ := by
  obtain ⟨opened, root?⟩ := a
  cases opened <;> cases root? <;> simp [finish]

end Assembly

/-- Events form an element exactly if they are those of a document with it as the root. -/
theorem ofEvents_eq_ok_iff {events : List XmlEvent} {root : XmlElement} :
    ofEvents events = .ok root ↔ IsDocument events root := by
  rw [ofEvents, Result.bind_eq_ok]
  simp only [Assembly.finish_eq_ok_iff, exists_eq_right]
  constructor
  · intro ran
    have start : Assembly.Reached [] {} := .outside .nil rfl
    have reached := start.foldlM ran
    rw [List.nil_append] at reached
    cases reached with
    | @outside _ text _ content blank => exact ⟨text, content, blank⟩
  · rintro ⟨text, content, blank⟩
    exact content.foldlM_outside blank rfl

/-- A text is read as its events are put together, unless it could not be scanned to its end. -/
theorem read_eq_ok_iff {s : String} {root : XmlElement} : read s = .ok root
    ↔ (XmlEvent.scanDocument s).problem? = none
      ∧ IsDocument (XmlEvent.scanDocument s).events root := by
  rw [← ofEvents_eq_ok_iff, ofEvents, read, Result.bind_eq_ok, Result.bind_eq_ok]
  cases (XmlEvent.scanDocument s).problem? with
  | none => simp
  | some problem => simp

/-- A body in a known charset is read whole, or it is malformed. -/
theorem parseBody_cases (hints : Hints) {charset? : Option String} {body : ByteArray} {s : String}
    (decoded : decodeText (charset?.getD ((declaredEncoding? body).getD Charset.utf8.name)) body
      = .ok s) :
    (∃ root, read s = .ok root ∧ parseBody hints charset? body = .ok (rootValue hints root))
      ∨ ∃ problem, read s = .error problem
        ∧ parseBody hints charset? body = .error (.malformed formatName problem.message) := by
  cases found : read s with
  | ok root =>
    refine .inl ⟨root, rfl, ?_⟩
    simp only [parseBody, decoded, found, bind, Except.bind]
    rfl
  | error problem =>
    refine .inr ⟨problem, rfl, ?_⟩
    simp only [parseBody, decoded, found, bind, Except.bind]
    rfl

/-- Events form a tree exactly if they are those of one well-nested element with nothing but blanks
outside, and it is the tree of that element. A text is read as its events are, unless it could not
be scanned to its end; markup that says nothing, such as a comment, is no event. A body that is not
read whole is malformed. -/
theorem read_nested :
    (∀ events root, ofEvents events = .ok root ↔ IsDocument events root)
      ∧ (∀ s root, read s = .ok root ↔ (XmlEvent.scanDocument s).problem? = none
        ∧ IsDocument (XmlEvent.scanDocument s).events root)
      ∧ (∀ (hints : Hints) charset? body s,
        decodeText (charset?.getD ((declaredEncoding? body).getD Charset.utf8.name)) body = .ok s →
        (∃ root, read s = .ok root ∧ parseBody hints charset? body = .ok (rootValue hints root))
          ∨ ∃ problem, read s = .error problem
            ∧ parseBody hints charset? body = .error (.malformed formatName problem.message))
      ∧ ∀ spaces cs kind content rest, (∀ c ∈ spaces, XmlEvent.isSpace c = true) →
        XmlEvent.Markup.of? cs = .ok kind → kind.cut cs = some (content, rest) →
        kind.event content = .ok none → XmlEvent.scan (spaces ++ '<' :: cs) = XmlEvent.scan rest :=
  ⟨fun _ _ => ofEvents_eq_ok_iff, fun _ _ => read_eq_ok_iff,
    fun hints _ _ _ decoded => parseBody_cases hints decoded,
    fun _ _ _ _ _ blank known cut silent => XmlEvent.scan_markup blank known cut silent⟩

/-- A document with a comment, a title in two pieces, one of which is not escaped, and a year that
holds nothing. -/
def pieces : String :=
  "<?xml version=\"1.0\"?>\n<!-- new -->\n<book><title>Du<![CDATA[ne]]></title><year/></book>\n"

theorem read_nested_book :
    IsDocument [.start "book", .start "title", .text "Du", .verbatim "ne", .close "title",
        .empty "year", .close "book"]
      (node "book" "" [node "title" "Dune" [], node "year" "" []])
    ∧ read pieces = .ok (node "book" "" [node "title" "Dune" [], node "year" "" []])
    ∧ parseBody [] (some "utf-8") pieces.toUTF8
      = .ok (.resource "book" [("title", .text "Dune"), ("year", .null)])
    ∧ XmlEvent.scan "\n<!-- new -->\n<book/>".toList = XmlEvent.scan "\n<book/>".toList := by
  have title : Content [.text "Du", .verbatim "ne"] "Dune" [] := .text "Du" (.verbatim "ne" .nil)
  have inside : Content [.start "title", .text "Du", .verbatim "ne", .close "title", .empty "year"]
      "" [node "title" "Dune" [], node "year" "" []] :=
    .element "title" title (.empty "year" .nil)
  have document : IsDocument [.start "book", .start "title", .text "Du", .verbatim "ne",
      .close "title", .empty "year", .close "book"]
      (node "book" "" [node "title" "Dune" [], node "year" "" []]) :=
    ⟨"", inside.enclosed "book", rfl⟩
  have events : (XmlEvent.scanDocument pieces).events = [.start "book", .start "title", .text "Du",
      .verbatim "ne", .close "title", .empty "year", .close "book"] := by decide +kernel
  have decoded : decodeText "utf-8" pieces.toUTF8 = .ok pieces := by
    have named : Charset.ofName? "utf-8" = some .utf8 := by decide +kernel
    have encoded : Charset.utf8.encode pieces = .ok pieces.toUTF8 := rfl
    rw [decodeText, Charset.ofName_eq_ok.2 named]
    exact Charset.decode_encode encoded (by decide +kernel)
  obtain ⟨-, read_iff, body_cases, silent⟩ := read_nested
  have found := (read_iff pieces _).2 ⟨by decide +kernel, by rw [events]; exact document⟩
  refine ⟨document, found, ?_, ?_⟩
  · rcases body_cases [] (some "utf-8") pieces.toUTF8 pieces decoded with
      ⟨root, same, parsed⟩ | ⟨problem, failed, -⟩
    · cases found.symm.trans same
      exact parsed
    · cases found.symm.trans failed
  · have blank : ∀ c ∈ ['\n'], XmlEvent.isSpace c = true := List.forall_mem_singleton.2 rfl
    exact silent ['\n'] "!-- new -->\n<book/>".toList .comment "!-- new --".toList
      "\n<book/>".toList blank rfl (by decide) rfl

end XmlElement

end RestService
