import RestService.Proofs.Xml.RoundTrip

set_option autoImplicit false

namespace RestService

/-- An element begins, or the innermost one ends. -/
inductive XmlTag
  | opened (name : String)
  | closed
  deriving DecidableEq, Repr

namespace XmlEvent

/-- What an event says of elements. -/
def tags : XmlEvent → List XmlTag
  | .start name => [.opened name]
  | .empty name => [.opened name, .closed]
  | .close _ => [.closed]
  | .text _ | .verbatim _ => []

/-- The tags of a scan, in their order. -/
def Scan.tags (s : Scan) : List XmlTag := s.events.flatMap XmlEvent.tags

theorem Scan.tags_ahead (event? : Option XmlEvent) (s : Scan) :
    (s.ahead event?).tags = event?.toList.flatMap XmlEvent.tags ++ s.tags := by
  rw [tags, ahead, List.flatMap_append, tags]

/-- What stands before the first markup: spaces, and characters behind the spaces. -/
theorem exists_run {cs markup : List Char} {c : Char}
    (after : (cs.dropWhile isSpace).dropWhile (· != '<') = c :: markup) :
    ∃ blank run, (∀ c ∈ blank, isSpace c = true) ∧ (∀ c ∈ run.head?, isSpace c = false)
      ∧ (∀ c ∈ run, c ≠ '<') ∧ cs = blank ++ (run ++ '<' :: markup) := by
  have angle : c = '<' := by
    have stopped := List.head?_dropWhile_not (· != '<') (cs.dropWhile isSpace)
    rw [after] at stopped
    simpa using stopped
  subst angle
  refine ⟨cs.takeWhile isSpace, (cs.dropWhile isSpace).takeWhile (· != '<'),
    fun c => List.mem_takeWhile_imp, fun c mem => ?_,
    fun c mem => by simpa using List.mem_takeWhile_imp mem, ?_⟩
  · rw [List.head?_takeWhile, Option.mem_filter_iff] at mem
    have stopped := List.head?_dropWhile_not isSpace cs
    rw [mem.1] at stopped
    simpa using stopped
  · rw [← after, List.takeWhile_append_dropWhile, List.takeWhile_append_dropWhile]

/-- The tags of a text are those of its first markup and of what follows it. -/
theorem tags_scan (cs : List Char) : (scan cs).tags = []
    ∨ ∃ markup, markup.length < cs.length ∧ (scan cs).tags = (scanMarkup markup).tags := by
  cases after : (cs.dropWhile isSpace).dropWhile (· != '<') with
  | nil =>
    refine .inl ?_
    rw [scan]
    split
    · split
      · rfl
      · split <;> rfl
    · rename_i first markup found
      rw [after] at found
      cases found
  | cons c markup =>
    obtain ⟨blank, run, spaces, solid, plain, rfl⟩ := exists_run after
    rw [scan_of_run spaces solid plain markup]
    split
    · exact .inl rfl
    · rename_i chars? _
      refine .inr ⟨markup, ?_, ?_⟩
      · simp only [List.length_append, List.length_cons]
        omega
      · rw [Scan.tags_ahead]
        cases chars? <;> rfl

/-- Markup has no tags, or it has been read and its tags come first. -/
theorem tags_scanMarkup (cs : List Char) : (scanMarkup cs).tags = []
    ∨ ∃ kind content rest event?, Markup.of? cs = .ok kind ∧ kind.cut cs = some (content, rest)
      ∧ kind.event content = .ok event?
      ∧ (scanMarkup cs).tags = event?.toList.flatMap XmlEvent.tags ++ (scan rest).tags := by
  unfold scanMarkup
  split
  · exact .inl rfl
  · rename_i kind known
    split
    · exact .inl rfl
    · rename_i content rest cut
      split
      · exact .inl rfl
      · rename_i event? said
        exact .inr ⟨kind, content, rest, event?, known, cut, said, Scan.tags_ahead event? _⟩

/-- What a tag opens goes by the name at its front. -/
theorem tags_ofTag (content : List Char) :
    (∃ inner, content = inner ++ ['/'] ∧ (ofTag content).tags = [.opened (tagName inner), .closed])
      ∨ content.getLast? ≠ some '/' ∧ (ofTag content).tags = [.opened (tagName content)] := by
  by_cases slashed : content.getLast? = some '/'
  · obtain ⟨inner, rfl⟩ := List.getLast?_eq_some_iff.1 slashed
    exact .inl ⟨inner, rfl, by rw [ofTag_slash]; rfl⟩
  · exact .inr ⟨slashed, by rw [ofTag_open slashed]; rfl⟩

theorem tags_event_of_ne {kind : Markup} (other : kind ≠ .tag) {content : List Char}
    {event? : Option XmlEvent} (said : kind.event content = .ok event?) :
    ∀ tag ∈ event?.toList.flatMap XmlEvent.tags, tag = .closed := by
  cases kind with
  | tag => exact absurd rfl other
  | endTag =>
    cases said
    exact List.forall_mem_singleton.2 rfl
  | instruction =>
    simp only [Markup.event] at said
    split at said <;> cases said
    exact List.forall_mem_nil _
  | comment | verbatim =>
    simp only [Markup.event] at said
    split at said <;> cases said
    exact List.forall_mem_nil _
  | documentType =>
    simp only [Markup.event] at said
    split at said
    · split at said <;> cases said
      exact List.forall_mem_nil _
    · cases said

end XmlEvent

namespace XmlElement

open XmlEvent

/-- A tag that opens an element has its name at its front. -/
theorem fronts_of_tag {cs content rest : List Char} (known : Markup.of? cs = .ok .tag)
    (cut : cutTag cs = some (content, rest)) {name : String}
    (mem : .opened name ∈ (ofTag content).tags) : Fronts name := by
  obtain ⟨layout, -⟩ := cutTag_eq_some.1 cut
  have ahead {name : String} (more : List Char) (same : cs = name.toList ++ more) :
      Fronts name := by
    intro c first
    cases chars : name.toList with
    | nil =>
      rw [chars] at first
      cases first
    | cons d others =>
      rw [chars] at first same
      cases first
      rw [same] at known
      exact of?_eq_tag.1 known
  rcases tags_ofTag content with ⟨inner, rfl, tags⟩ | ⟨-, tags⟩
  · obtain ⟨more, named, -⟩ := exists_tagName inner
    rw [tags] at mem
    obtain rfl : name = tagName inner := by simpa using mem
    refine ahead (more ++ ['/'] ++ '>' :: rest) ?_
    rw [layout, ← List.append_assoc, ← List.append_assoc, ← named]
  · obtain ⟨more, named, -⟩ := exists_tagName content
    rw [tags] at mem
    obtain rfl : name = tagName content := by simpa using mem
    refine ahead (more ++ '>' :: rest) ?_
    rw [layout, ← List.append_assoc, ← named]

/-- No document opens an element whose name starts like other markup. -/
theorem fronts_of_scanMarkup {cs : List Char} {name : String}
    (mem : .opened name ∈ (scanMarkup cs).tags) : Fronts name := by
  induction long : cs.length using Nat.strongRecOn generalizing cs with
  | ind n ih =>
    rcases tags_scanMarkup cs with none | ⟨kind, content, rest, event?, known, cut, said, tags⟩
    · rw [none] at mem
      cases mem
    · rw [tags, List.mem_append] at mem
      rcases mem with here | later
      · by_cases tag : kind = .tag
        · subst tag
          cases said
          exact fronts_of_tag known cut (by simpa using here)
        · exact absurd (tags_event_of_ne tag said _ here) nofun
      · rcases tags_scan rest with none | ⟨markup, shorter, same⟩
        · rw [none] at later
          cases later
        · rw [same] at later
          have smaller : markup.length < n :=
            long ▸ Nat.lt_trans shorter (Markup.length_of_cut cut)
          exact ih _ smaller later rfl

/-- A tag that opens an element of some name has this name at its front, then a space or its end,
and what there is of it is whole. -/
theorem exists_after_of_opened {name : String} {tail : List Char} {more : List XmlTag}
    (known : Markup.of? (name.toList ++ tail) = .ok .tag)
    (first : (scanMarkup (name.toList ++ tail)).tags = .opened name :: more) :
    (∀ c ∈ name.toList, isSpace c = false)
      ∧ ∃ after rest, (∀ c ∈ after.head?, isSpace c = true)
        ∧ (Whole (name.toList ++ after ++ ['/']) ∧ tail = after ++ '/' :: '>' :: rest
          ∨ Whole (name.toList ++ after) ∧ (name.toList ++ after).getLast? ≠ some '/'
            ∧ tail = after ++ '>' :: rest) := by
  rcases tags_scanMarkup (name.toList ++ tail) with
    none | ⟨kind, content, rest, event?, same, cut, said, tags⟩
  · rw [none] at first
    cases first
  · obtain rfl : Markup.tag = kind := Except.ok.inj (known.symm.trans same)
    cases said
    obtain ⟨layout, whole⟩ := cutTag_eq_some.1 cut
    rw [tags, Option.toList_some, List.flatMap_singleton] at first
    rcases tags_ofTag content with ⟨inner, rfl, named⟩ | ⟨unslashed, named⟩
    · rw [named] at first
      obtain ⟨after, front, solid, blank⟩ := exists_tagName inner
      rw [XmlTag.opened.inj (List.cons.inj first).1] at front solid
      subst front
      refine ⟨solid, after, rest, blank, .inl ⟨whole, ?_⟩⟩
      simpa only [List.append_assoc, List.singleton_append, List.append_cancel_left_eq] using layout
    · rw [named] at first
      obtain ⟨after, front, solid, blank⟩ := exists_tagName content
      rw [XmlTag.opened.inj (List.cons.inj first).1] at front solid
      subst front
      refine ⟨solid, after, rest, blank, .inr ⟨whole, unslashed, ?_⟩⟩
      simpa only [List.append_assoc, List.append_cancel_left_eq] using layout

theorem eq_nil_of_space {after cs others : List Char} {c : Char}
    (blank : ∀ d ∈ after.head?, isSpace d = true) (solid : isSpace c = false)
    (same : c :: others = after ++ cs) : after = [] := by
  cases after with
  | nil => rfl
  | cons d after =>
    obtain ⟨rfl, -⟩ := List.cons.inj same
    rw [blank c rfl] at solid
    cases solid

/-- A start tag is read as that of its name only if the name fits and does not end in a slash. -/
theorem opens_of_first {name : String} {cs : List Char} {more : List XmlTag}
    (first : (scanMarkup (name.toList ++ '>' :: cs)).tags = .opened name :: more) : Opens name := by
  have fronts : Fronts name := fronts_of_scanMarkup (first ▸ List.mem_cons_self)
  have known := fronts.of?_eq (.inl (by decide : '>' ≠ '/' ∧ '>' ≠ '?' ∧ '>' ≠ '!')) cs
  obtain ⟨solid, after, rest, blank, ⟨whole, tail⟩ | ⟨whole, unslashed, tail⟩⟩ :=
    exists_after_of_opened known first
  · obtain rfl := eq_nil_of_space blank (by decide) tail
    exact absurd (List.cons.inj tail).1 (by decide)
  · obtain rfl := eq_nil_of_space blank (by decide) tail
    rw [List.append_nil] at whole unslashed
    exact ⟨⟨fronts, solid, whole⟩, unslashed⟩

/-- The tag of an element that holds nothing is read as such only if there is a name that fits. -/
theorem fits_of_first {name : String} {cs : List Char} {more : List XmlTag}
    (first : (scanMarkup (name.toList ++ '/' :: '>' :: cs)).tags = .opened name :: more) :
    Fits name ∧ name ≠ "" := by
  have fronts : Fronts name := fronts_of_scanMarkup (first ▸ List.mem_cons_self)
  have some : name ≠ "" := by
    rintro rfl
    -- without a name, this is an end tag
    rcases tags_scanMarkup ("".toList ++ '/' :: '>' :: cs) with
      none | ⟨kind, content, rest, event?, same, -, said, tags⟩
    · rw [none] at first
      cases first
    · obtain rfl : Markup.endTag = kind := Except.ok.inj same
      cases said
      rw [tags] at first
      exact absurd (List.cons.inj first).1 nofun
  obtain ⟨solid, after, rest, blank, ⟨whole, tail⟩ | ⟨whole, unslashed, tail⟩⟩ :=
    exists_after_of_opened (fronts.of?_eq (.inr some) _) first
  · obtain rfl := eq_nil_of_space blank (by decide) tail
    rw [List.append_nil] at whole
    exact ⟨⟨fronts, solid, whole_slash.1 whole⟩, some⟩
  · obtain rfl := eq_nil_of_space blank (by decide) tail
    exact absurd (List.cons.inj tail).1 (by decide)

theorem induct {P : XmlElement → Prop}
    (node : ∀ name text children, (∀ child ∈ children, P child) → P (.node name text children))
    (element : XmlElement) : P element :=
  XmlElement.rec (motive_1 := P) (motive_2 := fun children => ∀ child ∈ children, P child) node
    (List.forall_mem_nil _) (fun _ _ here later => List.forall_mem_cons.2 ⟨here, later⟩) element

mutual

def tags : XmlElement → List XmlTag
  | node name _ children => .opened name :: (tagsAll children ++ [.closed])

def tagsAll : List XmlElement → List XmlTag
  | [] => []
  | child :: children => tags child ++ tagsAll children

end

theorem tagsAll_append (first second : List XmlElement) :
    tagsAll (first ++ second) = tagsAll first ++ tagsAll second := by
  induction first with
  | nil => rfl
  | cons child first ih => rw [List.cons_append, tagsAll, ih, tagsAll, List.append_assoc]

theorem tags_textEvents (chars : List Char) :
    (textEvents chars).flatMap XmlEvent.tags = [] := by
  unfold textEvents
  split <;> rfl

theorem tags_events (element : XmlElement) :
    (events element).flatMap XmlEvent.tags = element.tags := by
  induction element using induct with
  | node name text children ih =>
    have all : (eventsAll children).flatMap XmlEvent.tags = tagsAll children := by
      induction children with
      | nil => rfl
      | cons child children rest =>
        obtain ⟨here, later⟩ := List.forall_mem_cons.1 ih
        rw [eventsAll, List.flatMap_append, here, rest later, tagsAll]
    by_cases none : children = []
    · subst none
      rw [events]
      split
      · rfl
      · rw [List.flatMap_cons, List.flatMap_append, tags_textEvents]
        rfl
    · rw [events_parent none, List.flatMap_cons, List.flatMap_append, all, tags]
      rfl

theorem tags_behind (ahead : List XmlEvent) (s : Scan) :
    (behind ahead s).tags = ahead.flatMap XmlEvent.tags ++ s.tags := by
  rw [Scan.tags, behind, List.flatMap_append, Scan.tags]

theorem legible_of_prefix_all {children : List XmlElement} {level : Nat} {rest : List Char}
    {after : List XmlTag}
    (each : ∀ child ∈ children, ∀ rest, child.tags <+: (scan (written level child ++ rest)).tags →
      Legible child)
    (first : tagsAll children ++ after <+: (scan (writtenAll level children ++ rest)).tags) :
    ∀ child ∈ children, Legible child := by
  induction children with
  | nil => exact List.forall_mem_nil _
  | cons child children ih =>
    obtain ⟨here, later⟩ := List.forall_mem_cons.1 each
    rw [tagsAll, writtenAll, List.append_assoc, List.append_assoc] at first
    have legible := here _ ((List.prefix_append _ _).trans first)
    rw [scan_written legible, tags_behind, tags_events, List.prefix_append_right_inj] at first
    exact List.forall_mem_cons.2 ⟨legible, ih later first⟩

/-- An element is legible if the tags that are read where it is written are its own. -/
theorem legible_of_prefix {element : XmlElement} {level : Nat} {rest : List Char}
    (first : element.tags <+: (scan (written level element ++ rest)).tags) : Legible element := by
  induction element using induct generalizing level rest with
  | node name text children ih =>
    have blank := isSpace_lineBreak level
    by_cases none : children = []
    · subst none
      rw [written] at first
      by_cases empty : text = ""
      · subst empty
        have layout : lineBreak level ++ emptyTag name ++ rest
            = lineBreak level ++ '<' :: (name.toList ++ '/' :: '>' :: rest) := by simp [emptyTag]
        rw [if_pos rfl, layout, scan_angle blank] at first
        obtain ⟨more, same⟩ := first
        obtain ⟨fits, some⟩ := fits_of_first same.symm
        exact .empty fits some
      · have layout : lineBreak level ++ startTag name ++ escape text.toList ++ endTag name ++ rest
            = lineBreak level ++ '<' :: (name.toList ++ '>' ::
              (escape text.toList ++ (endTag name ++ rest))) := by simp [startTag]
        rw [if_neg empty, layout, scan_angle blank] at first
        obtain ⟨more, same⟩ := first
        exact .leaf (opens_of_first same.symm) empty
    · rw [written_parent none] at first
      simp only [List.append_assoc] at first
      have opens : Opens name := by
        generalize writtenAll (level + 1) children ++ (lineBreak level ++ (endTag name ++ rest))
          = inside at first
        have layout : startTag name ++ inside = '<' :: (name.toList ++ '>' :: inside) := by
          simp [startTag]
        rw [layout, scan_angle blank] at first
        obtain ⟨more, same⟩ := first
        exact opens_of_first same.symm
      rw [scan_startTag opens blank, Scan.tags_ahead] at first
      have inside := (List.cons_prefix_cons.1 first).2
      exact .parent opens none (legible_of_prefix_all (fun child mem _ => ih child mem) inside)

namespace Assembly

/-- The tags that have been read of an assembly, those of open elements from outside. -/
def tags (a : Assembly) : List XmlTag :=
  (a.root?.map XmlElement.tags).getD []
    ++ a.opened.reverse.flatMap fun element => .opened element.name :: tagsAll element.children

theorem tags_attach {a next : Assembly} {element : XmlElement}
    (attached : a.attach element = .ok next) : next.tags = a.tags ++ element.tags := by
  obtain ⟨opened, root?⟩ := a
  cases opened with
  | cons parent outer =>
    obtain ⟨name, text, children⟩ := parent
    cases attached
    simp [tags, addChild, XmlElement.name, XmlElement.children, tagsAll_append, tagsAll]
  | nil =>
    cases root? with
    | some root => cases attached
    | none =>
      cases attached
      simp [tags]

theorem tags_step {a next : Assembly} {event : XmlEvent} (taken : a.step event = .ok next) :
    next.tags = a.tags ++ event.tags := by
  have appended {s : String} (taken : a.appendText s = .ok next) : next.tags = a.tags ++ [] := by
    obtain ⟨opened, root?⟩ := a
    cases opened with
    | cons parent outer =>
      obtain ⟨name, text, children⟩ := parent
      cases taken
      simp [tags, addText, XmlElement.name, XmlElement.children]
    | nil =>
      simp only [appendText] at taken
      split at taken <;> cases taken
      exact (List.append_nil _).symm
  cases event with
  | start name =>
    cases taken
    simp [tags, XmlEvent.tags, XmlElement.name, XmlElement.children, tagsAll]
  | empty name => exact tags_attach taken
  | close name =>
    simp only [step] at taken
    split at taken
    · cases taken
    · rename_i innermost outer stack
      split at taken
      · rw [tags_attach taken]
        obtain ⟨inner, text, children⟩ := innermost
        simp [tags, stack, XmlEvent.tags, XmlElement.tags, XmlElement.name, XmlElement.children]
      · cases taken
  | text s => exact appended taken
  | verbatim s => exact appended taken

theorem tags_foldlM {events : List XmlEvent} {a last : Assembly}
    (ran : events.foldlM step a = .ok last) : last.tags = a.tags ++ events.flatMap XmlEvent.tags := by
  induction events generalizing a with
  | nil =>
    cases ran
    exact (List.append_nil _).symm
  | cons event events ih =>
    rw [List.foldlM_cons] at ran
    obtain ⟨next, taken, later⟩ := Result.bind_eq_ok.1 ran
    rw [ih later, tags_step taken, List.flatMap_cons, List.append_assoc]

end Assembly

/-- What is read of a document has the tags that the document has. -/
theorem tags_of_read {s : String} {root : XmlElement} (found : read s = .ok root) :
    root.tags = (scanDocument s).tags := by
  unfold read at found
  obtain ⟨last, ran, more⟩ := Result.bind_eq_ok.1 found
  have same := Assembly.tags_foldlM ran
  split at more
  · cases more
  · unfold Assembly.finish at more
    split at more
    · cases more
    · rename_i closed whole
      cases more
      rw [Assembly.tags, closed, whole] at same
      simpa [Assembly.tags, Scan.tags] using same
    · cases more

theorem tags_trimmed (element : XmlElement) : element.trimmed.tags = element.tags := by
  induction element using induct with
  | node name text children ih =>
    have all : tagsAll (trimmedAll children) = tagsAll children := by
      induction children with
      | nil => rfl
      | cons child children rest =>
        obtain ⟨here, later⟩ := List.forall_mem_cons.1 ih
        rw [trimmedAll, tagsAll, here, rest later, tagsAll]
    by_cases none : children = []
    · subst none
      rfl
    · rw [trimmed_parent none, tags, all, tags]

/-- A document says what it was made of, texts without the spaces at their ends, exactly if all
names in it are legible. If they are not, nothing that can be read of it has the same elements; what
the texts are makes no difference. -/
theorem read_format {cx : CodecContext} {charset : String} {v : Value} {body : ByteArray}
    (formatted : Codec.xml.format cx charset v = .ok body) :
    ∃ root text, ofRoot cx.collection v = .ok root ∧ decodeText charset body = .ok text
      ∧ (read text = .ok root.trimmed ↔ root.Legible)
      ∧ ∀ tree, read text = .ok tree → (tree.tags = root.tags ↔ root.Legible) := by
  obtain ⟨root, known, made, named, encoded⟩ := format_eq_ok.1 formatted
  have inside := (not_mem_charset named).1
  have decoded : decodeText charset body = .ok (write charset root) := by
    rw [decodeText, Charset.ofName_eq_ok.2 named]
    exact decode_of_encode encoded
  have legible {tree : XmlElement} (found : read (write charset root) = .ok tree)
      (same : tree.tags = root.tags) : root.Legible := by
    have first : root.tags <+: (scan (written 0 root ++ ['\n'])).tags := by
      have whole := tags_of_read found
      rw [scanDocument_eq root inside, same] at whole
      exact whole ▸ List.prefix_rfl
    exact legible_of_prefix first
  refine ⟨root, _, made, decoded, ⟨fun found => legible found (tags_trimmed root),
    fun fine => read_write fine inside⟩, fun tree found => ⟨legible found, fun fine => ?_⟩⟩
  rw [read_write fine inside] at found
  rw [← Except.ok.inj found, tags_trimmed]

/-- A book whose size, under a name beyond ASCII, would close its own element. -/
def sized : Value := .resource "book" [("größe", .text " </größe><price>1</price>")]

theorem read_format_sized :
    ∃ body text, Codec.xml.format ⟨[], "books"⟩ "utf-8" sized = .ok body
      ∧ decodeText "utf-8" body = .ok text
      ∧ read text = .ok (node "book" "" [node "größe" "</größe><price>1</price>" []]) := by
  let size := node "größe" " </größe><price>1</price>" []
  have made : ofRoot "books" sized = .ok (node "book" "" [size]) := rfl
  have formatted : Codec.xml.format ⟨[], "books"⟩ "utf-8" sized
      = .ok (write "utf-8" (node "book" "" [size])).toUTF8 :=
    format_eq_ok.2 ⟨_, .utf8, made, by decide +kernel, rfl⟩
  obtain ⟨root, text, same, decoded, told, -⟩ := read_format formatted
  obtain rfl : node "book" "" [size] = root := Except.ok.inj (made.symm.trans same)
  have inner : Opens "größe" := ⟨⟨by simp [Fronts], by simp [isSpace], by decide⟩, by decide⟩
  have outer : Opens "book" := opens_of_isPlainName (by decide)
  have legible : Legible (node "book" "" [size]) :=
    .parent outer (by simp) (List.forall_mem_singleton.2 (.leaf inner (by decide)))
  exact ⟨_, text, formatted, decoded, told.2 legible⟩

/-- A name can close its own tag and write elements of its own. -/
theorem exists_forged :
    ∃ v body text root tree, Codec.xml.format ⟨[], "books"⟩ "utf-8" v = .ok body
      ∧ ofRoot "books" v = .ok root ∧ decodeText "utf-8" body = .ok text
      ∧ read text = .ok tree ∧ tree.tags ≠ root.tags
      ∧ node "price" "1" [] ∈ tree.children ∧ "price" ∉ names root := by
  let forged : Value := .resource "book" [("title", .text "Dune"), ("x/><price>1</price><y", .null)]
  let root := node "book" "" [node "title" "Dune" [], node "x/><price>1</price><y" "" []]
  let tree := node "book" ""
    [node "title" "Dune" [], node "x" "" [], node "price" "1" [], node "y" "" []]
  have made : ofRoot "books" forged = .ok root := rfl
  have formatted : Codec.xml.format ⟨[], "books"⟩ "utf-8" forged
      = .ok (write "utf-8" root).toUTF8 :=
    format_eq_ok.2 ⟨root, .utf8, made, by decide +kernel, rfl⟩
  have decoded : decodeText "utf-8" (write "utf-8" root).toUTF8 = .ok (write "utf-8" root) := by
    have named : Charset.ofName? "utf-8" = some .utf8 := by decide +kernel
    have encoded : Charset.utf8.encode (write "utf-8" root) = .ok (write "utf-8" root).toUTF8 := rfl
    rw [decodeText, Charset.ofName_eq_ok.2 named]
    exact decode_of_encode encoded
  have document : write "utf-8" root = "<?xml version=\"1.0\" encoding=\"utf-8\"?>\n<book>\n"
      ++ "  <title>Dune</title>\n  <x/><price>1</price><y/>\n</book>\n" := by decide +kernel
  have found : read (write "utf-8" root) = .ok tree := by
    rw [document]
    cbv
  exact ⟨forged, _, _, root, tree, formatted, made, decoded, found, by decide,
    .tail _ (.tail _ (.head _)), by decide⟩

end XmlElement

end RestService
