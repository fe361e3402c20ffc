import RestService.Proofs.Xml.Name
import RestService.Xml.Writer

set_option autoImplicit false

namespace RestService

namespace XmlEvent

/-- The scan of what follows an angle bracket. -/
def scanMarkup (cs : List Char) : Scan :=
  match Markup.of? cs with
  | .error problem => { problem? := some problem }
  | .ok kind =>
    match _cut : kind.cut cs with
    | none => { problem? := some .unclosedMarkup }
    | some (content, rest) =>
      match kind.event content with
      | .error problem => { problem? := some problem }
      | .ok event? => (scan rest).ahead event?

/-- Spaces say nothing; a run of other characters ahead of markup is a text. -/
theorem scan_of_run {spaces run : List Char} (blank : ∀ c ∈ spaces, isSpace c = true)
    (solid : ∀ c ∈ run.head?, isSpace c = false) (plain : ∀ c ∈ run, c ≠ '<') (cs : List Char) :
    scan (spaces ++ (run ++ '<' :: cs)) =
      match if run.isEmpty then some none
        else (XmlElement.unescape? (trimEnd run)).map some with
      | none => { problem? := some .illegalReference }
      | some chars? =>
        (scanMarkup cs).ahead (chars?.map fun chars => .text (String.ofList chars)) := by
  have inside : (spaces ++ (run ++ '<' :: cs)).dropWhile isSpace = run ++ '<' :: cs := by
    rw [List.dropWhile_append_of_pos blank]
    apply dropWhile_of_head
    cases run with
    | nil => simp [isSpace]
    | cons c run => exact solid
  have notTag : ∀ c ∈ run, (c != '<') = true := fun c mem => bne_iff_ne.2 (plain c mem)
  have front : (run ++ '<' :: cs).takeWhile (· != '<') = run := by
    rw [List.takeWhile_append_of_pos notTag, List.takeWhile_cons_of_neg (by decide),
      List.append_nil]
  have back : (run ++ '<' :: cs).dropWhile (· != '<') = '<' :: cs := by
    rw [List.dropWhile_append_of_pos notTag, List.dropWhile_cons_of_neg (by decide)]
  rw [scan]
  split
  · rename_i none
    rw [inside, back] at none
    cases none
  · rename_i first markup found
    rw [inside, back] at found
    cases found
    rw [inside, front]
    rfl

theorem scan_angle {spaces : List Char} (blank : ∀ c ∈ spaces, isSpace c = true) (cs : List Char) :
    scan (spaces ++ '<' :: cs) = scanMarkup cs := by
  have run := scan_of_run blank (by simp) (List.forall_mem_nil _) cs
  rw [List.nil_append] at run
  exact run

/-- Markup behind spaces says what its content says. -/
theorem scan_markup {spaces cs content rest : List Char} {kind : Markup} {event? : Option XmlEvent}
    (blank : ∀ c ∈ spaces, isSpace c = true) (known : Markup.of? cs = .ok kind)
    (cut : kind.cut cs = some (content, rest)) (said : kind.event content = .ok event?) :
    scan (spaces ++ '<' :: cs) = (scan rest).ahead event? := by
  rw [scan_angle blank, scanMarkup]
  simp only [known]
  split
  · rename_i none
    rw [cut] at none
    cases none
  · rename_i content' rest' found
    rw [cut] at found
    cases found
    simp only [said]

/-- What an escaped text says: the text without the spaces at its ends, or nothing. -/
def textEvents (chars : List Char) : List XmlEvent :=
  if trimSpaces chars = [] then [] else [.text (String.ofList (trimSpaces chars))]

/-- The scan with more events ahead. -/
def behind (ahead : List XmlEvent) (s : Scan) : Scan := { s with events := ahead ++ s.events }

@[simp] theorem behind_nil (s : Scan) : behind [] s = s := rfl

theorem behind_append (first second : List XmlEvent) (s : Scan) :
    behind (first ++ second) s = behind first (behind second s) := by
  simp only [behind, List.append_assoc]

theorem behind_cons (event : XmlEvent) (more : List XmlEvent) (s : Scan) :
    behind (event :: more) s = (behind more s).ahead (some event) := rfl

/-- An escaped text ahead of markup is read as the text. -/
theorem scan_text (chars cs : List Char) : scan (XmlElement.escape chars ++ '<' :: cs) =
    behind (textEvents chars) (scanMarkup cs) := by
  obtain ⟨front, back, layout, before, after, vanishes, tight⟩ := exists_spaces chars
  generalize trimmed : trimSpaces chars = core at layout vanishes tight
  rw [textEvents, trimmed]
  have written : XmlElement.escape chars = front ++ (XmlElement.escape core ++ back) := by
    rw [layout, XmlElement.escape, List.flatMap_append, List.flatMap_append]
    exact congrArg₂ _ (XmlElement.escape_of_isSpace before)
      (congrArg _ (XmlElement.escape_of_isSpace after))
  rw [written, List.append_assoc]
  by_cases none : core = []
  · rw [if_pos none, none, vanishes none]
    exact scan_angle before cs
  · have kept := XmlElement.tight_escape tight
    have full := XmlElement.escape_ne_nil none
    have solid : ∀ c ∈ (XmlElement.escape core ++ back).head?, isSpace c = false := by
      rw [List.head?_append_of_ne_nil _ full]
      exact kept.front
    have plain : ∀ c ∈ XmlElement.escape core ++ back, c ≠ '<' := by
      refine List.forall_mem_append.2 ⟨XmlElement.escape_ne_tag core, fun c mem same => ?_⟩
      rw [same] at mem
      exact absurd (after '<' mem) (by decide)
    have filled : (XmlElement.escape core ++ back).isEmpty = false := by simp [full]
    rw [scan_of_run before solid plain cs, if_neg none]
    simp only [filled, Bool.false_eq_true, if_false, trimEnd_append _ after, kept.trimEnd_eq,
      XmlElement.unescape?_escape]
    rfl

theorem cutInstruction_of_inside {content : List Char} (inside : '>' ∉ content)
    (rest : List Char) :
    cutInstruction (content ++ '?' :: '>' :: rest) = some (content ++ ['?'], rest) := by
  rw [cutInstruction, cutAtClose_eq_some]
  refine ⟨by simp, passes_of_not_mem ?_, by simp⟩
  simp [inside]

end XmlEvent

namespace XmlElement

open XmlEvent

theorem isSpace_lineBreak (level : Nat) : ∀ c ∈ lineBreak level, isSpace c = true := by
  intro c mem
  rcases List.mem_cons.1 mem with rfl | later
  · rfl
  · rw [List.eq_of_mem_replicate later]
    rfl

section Tags

variable {name : String} {spaces : List Char}

theorem scan_startTag (opens : Opens name) (blank : ∀ c ∈ spaces, isSpace c = true)
    (rest : List Char) :
    scan (spaces ++ (startTag name ++ rest)) = (scan rest).ahead (some (.start name)) := by
  have cut : Markup.tag.cut (name.toList ++ '>' :: rest) = some (name.toList, rest) :=
    cutTag_eq_some.2 ⟨rfl, opens.whole⟩
  have said : Markup.tag.event name.toList = .ok (some (.start name)) := by
    rw [Markup.event, ofTag_open opens.unslashed, opens.tagName_eq]
  have layout : startTag name ++ rest = '<' :: (name.toList ++ '>' :: rest) := by
    simp [startTag]
  have known := opens.fronts.of?_eq (.inl (by decide : '>' ≠ '/' ∧ '>' ≠ '?' ∧ '>' ≠ '!')) rest
  rw [layout, scan_markup blank known cut said]

theorem scan_emptyTag (fits : Fits name) (some : name ≠ "")
    (blank : ∀ c ∈ spaces, isSpace c = true) (rest : List Char) :
    scan (spaces ++ (emptyTag name ++ rest)) = (scan rest).ahead (.some (.empty name)) := by
  have cut : Markup.tag.cut (name.toList ++ '/' :: '>' :: rest) =
      .some (name.toList ++ ['/'], rest) :=
    cutTag_eq_some.2 ⟨by simp, whole_slash.2 fits.whole⟩
  have said : Markup.tag.event (name.toList ++ ['/']) = .ok (.some (.empty name)) := by
    rw [Markup.event, ofTag_slash, fits.tagName_eq]
  have layout : emptyTag name ++ rest = '<' :: (name.toList ++ '/' :: '>' :: rest) := by
    simp [emptyTag]
  rw [layout, scan_markup blank (fits.fronts.of?_eq (.inr some) _) cut said]

theorem scan_endTag (fits : Fits name) (blank : ∀ c ∈ spaces, isSpace c = true)
    (rest : List Char) :
    scan (spaces ++ (endTag name ++ rest)) = (scan rest).ahead (some (.close name)) := by
  have cut : Markup.endTag.cut ('/' :: name.toList ++ '>' :: rest) =
      some ('/' :: name.toList, rest) :=
    cutTag_eq_some.2 ⟨rfl, ⟨by decide, fits.whole.1⟩, fits.whole.2⟩
  have said : Markup.endTag.event ('/' :: name.toList) = .ok (some (.close name)) := by
    rw [Markup.event, List.drop_one, List.tail_cons, fits.ofEndTag_eq]
  have layout : endTag name ++ rest = '<' :: ('/' :: name.toList ++ '>' :: rest) := by
    simp [endTag]
  rw [layout, scan_markup blank rfl cut said]

end Tags

mutual

/-- What the document of an element says, from front to end. -/
def events : XmlElement → List XmlEvent
  | node name text [] =>
    if text = "" then [.empty name]
    else .start name :: (textEvents text.toList ++ [.close name])
  | node name _ (child :: children) =>
    .start name :: (events child ++ (eventsAll children ++ [.close name]))

/-- What the documents of elements say, one after the other. -/
def eventsAll : List XmlElement → List XmlEvent
  | [] => []
  | child :: children => events child ++ eventsAll children

end

/-- Elements whose names are given back by their tags. -/
inductive Legible : XmlElement → Prop
  | empty {name : String} (fits : Fits name) (some : name ≠ "") : Legible (node name "" [])
  | leaf {name text : String} (opens : Opens name) (some : text ≠ "") : Legible (node name text [])
  | parent {name text : String} {children : List XmlElement} (opens : Opens name)
    (some : children ≠ []) (each : ∀ child ∈ children, Legible child) :
    Legible (node name text children)

theorem events_parent {children : List XmlElement} (some : children ≠ []) (name text : String) :
    events (node name text children) = .start name :: (eventsAll children ++ [.close name]) := by
  cases children with
  | nil => exact absurd rfl some
  | cons child children => rw [events, eventsAll, List.append_assoc]

theorem written_parent {children : List XmlElement} (some : children ≠ []) (level : Nat)
    (name text : String) :
    written level (node name text children) =
      lineBreak level ++ (startTag name ++ (writtenAll (level + 1) children ++
        (lineBreak level ++ endTag name))) := by
  cases children with
  | nil => exact absurd rfl some
  | cons child children => simp only [written, writtenAll, List.append_assoc]

theorem scan_writtenAll {children : List XmlElement} {level : Nat}
    (each : ∀ child ∈ children, ∀ rest,
      scan (written level child ++ rest) = behind (events child) (scan rest)) (rest : List Char) :
    scan (writtenAll level children ++ rest) = behind (eventsAll children) (scan rest) := by
  induction children with
  | nil => rfl
  | cons child children ih =>
    obtain ⟨here, later⟩ := List.forall_mem_cons.1 each
    rw [writtenAll, List.append_assoc, here, ih later, eventsAll, behind_append]

/-- What is written of an element is read as what the element says. -/
theorem scan_written {element : XmlElement} (legible : Legible element) (level : Nat)
    (rest : List Char) :
    scan (written level element ++ rest) = behind (events element) (scan rest) := by
  -- What follows the element is left open, so that siblings and end tags can follow.
  induction legible generalizing level rest with
  | @empty name fits some =>
    have blank := isSpace_lineBreak level
    rw [written, events, if_pos rfl, if_pos rfl, List.append_assoc, scan_emptyTag fits some blank,
      behind_cons, behind_nil]
  | @leaf name text opens some =>
    have blank := isSpace_lineBreak level
    have closing := scan_endTag opens.toFits (List.forall_mem_nil _) rest
    have layout : endTag name ++ rest = '<' :: ('/' :: name.toList ++ '>' :: rest) := by
      simp [endTag]
    have reading := scan_text text.toList ('/' :: name.toList ++ '>' :: rest)
    rw [← scan_angle (List.forall_mem_nil _), ← layout, closing] at reading
    rw [written, events, if_neg some, if_neg some]
    simp only [List.append_assoc]
    rw [scan_startTag opens blank, reading, behind_cons, behind_append, behind_cons, behind_nil]
  | @parent name text children opens some each ih =>
    have blank := isSpace_lineBreak level
    have inner (rest : List Char) :=
      scan_writtenAll (fun child mem => ih child mem (level + 1)) rest
    rw [written_parent some, events_parent some]
    simp only [List.append_assoc]
    rw [scan_startTag opens blank, inner, scan_endTag opens.toFits blank, behind_cons,
      behind_append, behind_cons, behind_nil]

/-- The declaration of a document says nothing. -/
theorem scan_declaration {charset : String} (inside : '>' ∉ charset.toList)
    (rest : List Char) : scan ((declaration charset).toList ++ rest) = scan rest := by
  let content := "?xml version=\"1.0\" encoding=\"".toList ++ (charset.toList ++ ['"'])
  have free : '>' ∉ content := by simp [content, inside]
  have layout : (declaration charset).toList ++ rest = '<' :: (content ++ '?' :: '>' :: rest) := by
    simp [toList_declaration, content]
  have known : Markup.of? (content ++ '?' :: '>' :: rest) = .ok .instruction := rfl
  have cut : Markup.instruction.cut (content ++ '?' :: '>' :: rest) =
      some (content ++ ['?'], rest) :=
    cutInstruction_of_inside free rest
  have said : Markup.instruction.event (content ++ ['?']) = .ok none := by
    have long : ¬(content ++ ['?']).length < 2 := by simp [content]
    rw [Markup.event, if_neg long]
  have read := scan_markup (List.forall_mem_nil _) known cut said
  rw [List.nil_append] at read
  rw [layout, read]
  rfl

/-- The declaration of a document and the line break at its end say nothing. -/
theorem scanDocument_eq (root : XmlElement) {charset : String} (inside : '>' ∉ charset.toList) :
    scanDocument (write charset root) = scan (written 0 root ++ ['\n']) := by
  have front : scanDocument (write charset root) = scan (write charset root).toList := by
    unfold scanDocument
    split
    · rename_i marked
      rw [write, String.toList_ofList, toList_declaration] at marked
      cases marked
    · rfl
  rw [front, write, String.toList_ofList, List.append_assoc, scan_declaration inside]

/-- A document that has been written says what its root says. -/
theorem scanDocument_write {root : XmlElement} (legible : Legible root) {charset : String}
    (inside : '>' ∉ charset.toList) :
    scanDocument (write charset root) = { events := events root } := by
  have ends : scan ['\n'] = {} := by
    rw [scan]
    rfl
  rw [scanDocument_eq root inside, scan_written legible, ends, behind, List.append_nil]

end XmlElement

end RestService
