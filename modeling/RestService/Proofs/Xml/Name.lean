import RestService.Proofs.Xml.Escape

set_option autoImplicit false

namespace RestService

namespace XmlEvent

section Cut

variable {σ : Type} {next : σ → Char → σ} {closes : σ → Bool} {state : σ}
  {cs content rest : List Char}

/-- No `>` among these characters closes the markup. -/
def Passes (next : σ → Char → σ) (closes : σ → Bool) : σ → List Char → Prop
  | _, [] => True
  | state, c :: cs => ¬(c = '>' ∧ closes state = true) ∧ Passes next closes (next state c) cs

instance decidablePasses (next : σ → Char → σ) (closes : σ → Bool) :
    (state : σ) → (cs : List Char) → Decidable (Passes next closes state cs)
  | _, [] => .isTrue trivial
  | state, c :: cs =>
    have := decidablePasses next closes (next state c) cs
    inferInstanceAs (Decidable (¬(c = '>' ∧ closes state = true) ∧ _))

theorem passes_append {first second : List Char} :
    Passes next closes state (first ++ second)
      ↔ Passes next closes state first ∧ Passes next closes (first.foldl next state) second := by
  induction first generalizing state with
  | nil => exact (and_iff_right trivial).symm
  | cons c first ih =>
    rw [List.cons_append, Passes, Passes, ih, List.foldl_cons, and_assoc]

theorem passes_of_not_mem (free : '>' ∉ cs) : Passes next closes state cs := by
  induction cs generalizing state with
  | nil => trivial
  | cons c cs ih =>
    obtain ⟨here, later⟩ := List.forall_mem_cons.1 fun c (mem : c ∈ _) => ne_of_mem_of_not_mem mem free
    exact ⟨fun closed => here closed.1, ih fun mem => later '>' mem rfl⟩

/-- Markup is cut at the first `>` that closes it. -/
theorem cutAtClose_eq_some : cutAtClose next closes state cs = some (content, rest)
    ↔ cs = content ++ '>' :: rest ∧ Passes next closes state content
      ∧ closes (content.foldl next state) = true := by
  induction cs generalizing state content with
  | nil => simp [cutAtClose]
  | cons c cs ih =>
    rw [cutAtClose]
    by_cases closed : c = '>' ∧ closes state = true
    · rw [if_pos closed]
      obtain ⟨rfl, closing⟩ := closed
      cases content with
      | nil => simp [Passes, closing, eq_comm]
      | cons d content =>
        constructor
        · rintro ⟨⟩
        · rintro ⟨layout, ⟨here, -⟩, -⟩
          exact absurd ⟨(List.cons.inj layout).1.symm, closing⟩ here
    · rw [if_neg closed, Option.map_eq_some_iff]
      cases content with
      | nil =>
        constructor
        · rintro ⟨_, -, ⟨⟩⟩
        · rintro ⟨layout, -, closing⟩
          exact absurd ⟨(List.cons.inj layout).1, closing⟩ closed
      | cons d content =>
        constructor
        · rintro ⟨⟨inner, rest⟩, found, same⟩
          cases same
          obtain ⟨layout, passes, closing⟩ := ih.1 found
          exact ⟨congrArg (c :: ·) layout, ⟨closed, passes⟩, closing⟩
        · rintro ⟨layout, ⟨-, passes⟩, closing⟩
          obtain ⟨rfl, tail⟩ := List.cons.inj layout
          exact ⟨(content, rest), ih.2 ⟨tail, passes, closing⟩, rfl⟩

end Cut

/-- All quotes are closed, and `>` stands only inside of quotes. -/
def Whole (content : List Char) : Prop :=
  Passes nextQuote Option.isNone none content ∧ content.foldl nextQuote none = none

instance (content : List Char) : Decidable (Whole content) := inferInstanceAs (Decidable (_ ∧ _))

theorem cutTag_eq_some {cs content rest : List Char} :
    cutTag cs = some (content, rest) ↔ cs = content ++ '>' :: rest ∧ Whole content := by
  rw [cutTag, cutAtClose_eq_some, Option.isNone_iff_eq_none]
  exact Iff.rfl

/-- Nothing in these characters opens or closes a quote, or ends a tag. -/
def Unquoted (cs : List Char) : Prop := ∀ c ∈ cs, c ≠ '>' ∧ c ≠ '"' ∧ c ≠ '\''

theorem whole_of_unquoted {content : List Char} (unquoted : Unquoted content) : Whole content := by
  refine ⟨passes_of_not_mem fun mem => (unquoted '>' mem).1 rfl, ?_⟩
  induction content with
  | nil => rfl
  | cons c content ih =>
    obtain ⟨⟨-, double, single⟩, later⟩ := List.forall_mem_cons.1 unquoted
    have outside : nextQuote none c = none := if_neg (by simp [double, single])
    rw [List.foldl_cons, outside]
    exact ih later

theorem quote_of_foldl {cs : List Char} {quote? : Option Char} {quote : Char}
    (mark : ∀ q ∈ quote?, q = '"' ∨ q = '\'') (inside : cs.foldl nextQuote quote? = some quote) :
    quote = '"' ∨ quote = '\'' := by
  induction cs generalizing quote? with
  | nil => exact mark quote inside
  | cons c cs ih =>
    refine ih (fun q mem => ?_) inside
    cases quote? with
    | none =>
      unfold nextQuote at mem
      simp only at mem
      split at mem
      · rename_i opens
        exact Option.some.inj mem ▸ opens
      · cases mem
    | some before =>
      unfold nextQuote at mem
      simp only at mem
      split at mem
      · cases mem
      · exact Option.some.inj mem ▸ mark before rfl

/-- A slash at the end of a tag does not stand in quotes. -/
theorem whole_slash {content : List Char} : Whole (content ++ ['/']) ↔ Whole content := by
  have last : Passes nextQuote Option.isNone (content.foldl nextQuote none) ['/'] :=
    passes_of_not_mem (by decide)
  have after : (content ++ ['/']).foldl nextQuote none = none
      ↔ content.foldl nextQuote none = none := by
    rw [List.foldl_append]
    cases inside : content.foldl nextQuote none with
    | none => exact Iff.rfl
    | some quote =>
      rcases quote_of_foldl (by simp) inside with rfl | rfl <;> decide
  rw [Whole, passes_append, and_iff_left last, after]
  exact Iff.rfl

/-- The name of a tag is followed by a space or by nothing. -/
theorem exists_tagName (content : List Char) : ∃ more, content = (tagName content).toList ++ more
    ∧ (∀ c ∈ (tagName content).toList, isSpace c = false)
    ∧ ∀ c ∈ more.head?, isSpace c = true := by
  rw [tagName, String.toList_ofList]
  refine ⟨content.dropWhile fun c => !isSpace c, List.takeWhile_append_dropWhile.symm,
    fun c mem => ?_, fun c mem => ?_⟩
  · simpa using List.mem_takeWhile_imp mem
  · have stopped := List.head?_dropWhile_not (fun c => !isSpace c) content
    rw [mem] at stopped
    simpa using stopped

theorem tagName_eq {content : List Char} (solid : ∀ c ∈ content, isSpace c = false) :
    tagName content = String.ofList content := by
  have whole : content.takeWhile (fun c => !isSpace c) = content := by
    rw [List.takeWhile_eq_self_iff]
    intro c mem
    rw [solid c mem]
    rfl
  rw [tagName, whole]

theorem ofTag_slash (content : List Char) : ofTag (content ++ ['/']) = .empty (tagName content) := by
  have reversed : (content ++ ['/']).reverse = '/' :: content.reverse := by
    rw [List.reverse_append, List.reverse_singleton, List.singleton_append]
  rw [ofTag, reversed]
  simp only [List.reverse_reverse]

theorem ofTag_open {content : List Char} (unslashed : content.getLast? ≠ some '/') :
    ofTag content = .start (tagName content) := by
  unfold ofTag
  split
  · rename_i inner reversed
    have last : content.reverse.head? = some '/' := by rw [reversed, List.head?_cons]
    rw [List.head?_reverse] at last
    exact absurd last unslashed
  · rfl

/-- Markup is a tag unless its first character says otherwise. -/
theorem of?_eq_tag {c : Char} {cs : List Char} :
    Markup.of? (c :: cs) = .ok .tag ↔ c ≠ '/' ∧ c ≠ '?' ∧ c ≠ '!' := by
  constructor
  · intro tag
    refine ⟨?_, ?_, ?_⟩
    · rintro rfl
      cases tag
    · rintro rfl
      cases tag
    · rintro rfl
      unfold Markup.of? at tag
      split at tag <;> simp_all
  · rintro ⟨slash, question, exclamation⟩
    unfold Markup.of?
    split <;> simp_all

end XmlEvent

namespace XmlElement

open XmlEvent

/-- Names that do not start like other markup. -/
def Fronts (name : String) : Prop := ∀ c ∈ name.toList.head?, c ≠ '/' ∧ c ≠ '?' ∧ c ≠ '!'

theorem Fronts.of?_eq {name : String} (fronts : Fronts name) {c : Char}
    (next : c ≠ '/' ∧ c ≠ '?' ∧ c ≠ '!' ∨ name ≠ "") (cs : List Char) :
    Markup.of? (name.toList ++ c :: cs) = .ok .tag := by
  cases chars : name.toList with
  | nil =>
    have empty : name = "" := String.toList_eq_nil_iff.1 chars
    exact of?_eq_tag.2 (next.resolve_right (absurd empty))
  | cons first more => exact of?_eq_tag.2 (fronts first (by rw [chars]; rfl))

/-- Names that a tag gives back as they have been written into it. -/
structure Fits (name : String) : Prop where
  fronts : Fronts name
  solid : ∀ c ∈ name.toList, isSpace c = false
  whole : Whole name.toList

/-- Names whose tags are not taken for those of an element that holds nothing. -/
structure Opens (name : String) : Prop extends Fits name where
  unslashed : name.toList.getLast? ≠ some '/'

section Fits

variable {name : String}

theorem Fits.tagName_eq (fits : Fits name) : tagName name.toList = name := by
  rw [XmlEvent.tagName_eq fits.solid, String.ofList_toList]

theorem Fits.ofEndTag_eq (fits : Fits name) : ofEndTag name.toList = .close name := by
  have tight : Tight name.toList :=
    ⟨fun c mem => fits.solid c (List.mem_of_mem_head? mem),
      fun c mem => fits.solid c (List.mem_of_mem_getLast? mem)⟩
  rw [ofEndTag, tight.trimEnd_eq, ite_self, String.ofList_toList]

end Fits

def isNameStart (c : Char) : Bool := c.isAlpha || c == '_'

def isNameChar (c : Char) : Bool := c.isAlphanum || c == '_' || c == '-' || c == '.'

def isPlainName (name : String) : Bool :=
  match name.toList with
  | [] => false
  | c :: cs => isNameStart c && cs.all isNameChar

theorem isNameChar_of_isNameStart {c : Char} (start : isNameStart c = true) :
    isNameChar c = true := by
  rw [isNameStart, Bool.or_eq_true] at start
  rcases start with alpha | underscore
  · simp [isNameChar, Char.isAlphanum, alpha]
  · simp [isNameChar, underscore]

theorem isNameChar_of_mem {name : String} (plain : isPlainName name = true) :
    ∀ c ∈ name.toList, isNameChar c = true := by
  unfold isPlainName at plain
  split at plain
  · cases plain
  · rename_i first more chars
    obtain ⟨start, later⟩ := Bool.and_eq_true_iff.1 plain
    rw [chars]
    exact List.forall_mem_cons.2 ⟨isNameChar_of_isNameStart start, List.all_eq_true.1 later⟩

theorem ne_empty_of_isPlainName {name : String} (plain : isPlainName name = true) : name ≠ "" := by
  rintro rfl
  cases plain

theorem ne_of_isNameChar {c other : Char} (inside : isNameChar c = true)
    (outside : isNameChar other = false) : c ≠ other := by
  intro same
  rw [same, outside] at inside
  cases inside

theorem isSpace_of_isNameChar {c : Char} (inside : isNameChar c = true) : isSpace c = false := by
  have blank (other : Char) (outside : isNameChar other = false) : (c == other) = false :=
    beq_eq_false_iff_ne.2 (ne_of_isNameChar inside outside)
  rw [isSpace, blank ' ' (by decide), blank '\t' (by decide), blank '\n' (by decide),
    blank '\r' (by decide)]
  rfl

theorem opens_of_isPlainName {name : String} (plain : isPlainName name = true) : Opens name where
  fronts c mem := by
    have inside := isNameChar_of_mem plain c (List.mem_of_mem_head? mem)
    exact ⟨ne_of_isNameChar inside (by decide), ne_of_isNameChar inside (by decide),
      ne_of_isNameChar inside (by decide)⟩
  solid c mem := isSpace_of_isNameChar (isNameChar_of_mem plain c mem)
  whole := whole_of_unquoted fun c mem =>
    have inside := isNameChar_of_mem plain c mem
    ⟨ne_of_isNameChar inside (by decide), ne_of_isNameChar inside (by decide),
      ne_of_isNameChar inside (by decide)⟩
  unslashed last :=
    absurd (isNameChar_of_mem plain '/' (List.mem_of_mem_getLast? last)) (by decide)

end XmlElement

end RestService
