import RestService.Xml.Element
import RestService.Xml.Escape

set_option autoImplicit false

namespace RestService

/-- A part of a document. -/
inductive XmlEvent
  | start (name : String)
  | empty (name : String)
  | close (name : String)
  | text (s : String)
  /-- A section whose text is not escaped. -/
  | verbatim (s : String)
  deriving DecidableEq, Repr

namespace XmlEvent

open XmlElement (Problem unescape?)

def isSpace (c : Char) : Bool := c == ' ' || c == '\t' || c == '\n' || c == '\r'

def trimEnd (cs : List Char) : List Char := (cs.reverse.dropWhile isSpace).reverse

/-- What stands before the first `>` at which the state `closes` the markup, and what follows it.
The state passes over each character by `next`. -/
def cutAtClose {σ : Type} (next : σ → Char → σ) (closes : σ → Bool) :
    σ → List Char → Option (List Char × List Char)
  | _, [] => none
  | state, c :: cs =>
    if c = '>' ∧ closes state then some ([], cs)
    else (cutAtClose next closes (next state c) cs).map fun (content, rest) => (c :: content, rest)

theorem length_of_cutAtClose {σ : Type} {next : σ → Char → σ} {closes : σ → Bool} {state : σ}
    {cs content rest : List Char} (found : cutAtClose next closes state cs = some (content, rest)) :
    rest.length < cs.length := by
  induction cs generalizing state content with
  | nil => simp [cutAtClose] at found
  | cons c cs ih =>
    rw [cutAtClose] at found
    split at found
    · simp only [Option.some.injEq, Prod.mk.injEq] at found
      simp [found.2]
    · simp only [Option.map_eq_some_iff, Prod.exists, Prod.mk.injEq] at found
      obtain ⟨inner, tail, h, _, rfl⟩ := found
      exact Nat.lt_succ_of_lt (ih h)

/-- The quote that a tag is inside of, after one more character. -/
def nextQuote (quote : Option Char) (c : Char) : Option Char :=
  match quote with
  | none => if c = '"' ∨ c = '\'' then some c else none
  | some q => if c = q then none else some q

/-- A tag up to its end; what stands in quotes does not end it. -/
def cutTag (cs : List Char) : Option (List Char × List Char) :=
  cutAtClose nextQuote Option.isNone none cs

/-- A processing instruction, from its first question mark to its last one. -/
def cutInstruction (cs : List Char) : Option (List Char × List Char) :=
  cutAtClose (fun _ c => c) (· == '?') ' ' cs

/-- The number of characters passed, and how many of the last ones are `mark`. -/
def nextRun (mark : Char) (state : Nat × Nat) (c : Char) : Nat × Nat :=
  (state.1 + 1, if c = mark then state.2 + 1 else 0)

/-- A comment, from its exclamation mark to the dashes at its end. -/
def cutComment (cs : List Char) : Option (List Char × List Char) :=
  cutAtClose (nextRun '-') (fun state => 4 < state.1 && 2 ≤ state.2) (0, 0) cs

/-- A section of unescaped text, from its exclamation mark to the brackets at its end. -/
def cutVerbatim (cs : List Char) : Option (List Char × List Char) :=
  cutAtClose (nextRun ']') (fun state => 2 ≤ state.2) (0, 0) cs

/-- How many more angle brackets were opened than closed, after one more character. -/
def nextBalance (balance : Int) (c : Char) : Int :=
  if c = '<' then balance + 1 else if c = '>' then balance - 1 else balance

/-- A document type, from its exclamation mark to its end. -/
def cutDocumentType (cs : List Char) : Option (List Char × List Char) :=
  cutAtClose nextBalance (· == 0) 0 cs

/-- The kinds of markup, told by the character after the angle bracket, or after the exclamation
mark. -/
inductive Markup
  | tag
  | endTag
  | instruction
  | comment
  | verbatim
  | documentType
  deriving DecidableEq, Repr

/-- The markup that `cs` is, of which only the angle bracket has been read. -/
def Markup.of? : List Char → Except Problem Markup
  | [] => .error .unclosedMarkup
  | '/' :: _ => .ok .endTag
  | '?' :: _ => .ok .instruction
  | '!' :: '-' :: _ => .ok .comment
  | '!' :: '[' :: _ => .ok .verbatim
  | '!' :: 'D' :: _ | '!' :: 'd' :: _ => .ok .documentType
  | '!' :: _ => .error .illegalMarkup
  | _ => .ok .tag

/-- The content of markup of some kind, and what follows it. -/
def Markup.cut : Markup → List Char → Option (List Char × List Char)
  | tag | endTag => cutTag
  | instruction => cutInstruction
  | comment => cutComment
  | verbatim => cutVerbatim
  | documentType => cutDocumentType

theorem Markup.length_of_cut {markup : Markup} {cs content rest : List Char}
    (found : markup.cut cs = some (content, rest)) : rest.length < cs.length := by
  cases markup <;> exact length_of_cutAtClose found

/-- The name at the front of a tag. -/
def tagName (content : List Char) : String :=
  String.ofList (content.takeWhile fun c => !isSpace c)

def ofTag (content : List Char) : XmlEvent :=
  match content.reverse with
  | '/' :: inner => .empty (tagName inner.reverse)
  | _ => .start (tagName content)

/-- What an end tag says; spaces after the name do not count. -/
def ofEndTag (content : List Char) : XmlEvent :=
  .close (String.ofList (if content.all isSpace then content else trimEnd content))

/-- The content `cs` without `front`, if it starts with it. -/
def after? : List Char → List Char → Option (List Char)
  | [], cs => some cs
  | f :: front, c :: cs => if f = c then after? front cs else none
  | _ :: _, [] => none

def Markup.event : Markup → List Char → Except Problem (Option XmlEvent)
  | tag, content => .ok (some (ofTag content))
  | endTag, content => .ok (some (ofEndTag (content.drop 1)))
  | instruction, content => if content.length < 2 then .error .unclosedMarkup else .ok none
  | comment, content =>
    match after? "!--".toList content with
    | some _ => .ok none
    | none => .error .illegalMarkup
  | verbatim, content =>
    match after? "![CDATA[".toList content with
    | some inner => .ok (some (.verbatim (String.ofList (inner.take (inner.length - 2)))))
    | none => .error .illegalMarkup
  | documentType, content =>
    match after? "!DOCTYPE".toList (content.map Char.toUpper) with
    | some inner => if inner.all isSpace then .error .illegalMarkup else .ok none
    | none => .error .illegalMarkup

/-- The events of a text up to the first problem, and that problem. -/
structure Scan where
  events : List XmlEvent := []
  problem? : Option Problem := none

/-- The scan with one more event ahead. -/
def Scan.ahead (event? : Option XmlEvent) (s : Scan) : Scan :=
  { s with events := event?.toList ++ s.events }

/-- The scan of what starts with a text, without the spaces at its front. -/
def scan (cs : List Char) : Scan :=
  let inside := cs.dropWhile isSpace
  let run := inside.takeWhile (· != '<')
  match _after : inside.dropWhile (· != '<') with
  | [] =>
    if run.isEmpty then {}
    else match unescape? (trimEnd run) with
      | some chars => { events := [.text (String.ofList chars)] }
      | none => { problem? := some .illegalReference }
  | _ :: markup =>
    match if run.isEmpty then some none else (unescape? (trimEnd run)).map some with
    | none => { problem? := some .illegalReference }
    | some chars? =>
      Scan.ahead (chars?.map fun chars => .text (String.ofList chars)) <|
        match Markup.of? markup with
        | .error problem => { problem? := some problem }
        | .ok kind =>
          match _cut : kind.cut markup with
          | none => { problem? := some .unclosedMarkup }
          | some (content, rest) =>
            match kind.event content with
            | .error problem => { problem? := some problem }
            | .ok event? => Scan.ahead event? (scan rest)
termination_by cs.length
decreasing_by
  have spaces : (cs.dropWhile isSpace).length ≤ cs.length :=
    (List.dropWhile_suffix isSpace).length_le
  have run : ((cs.dropWhile isSpace).dropWhile (· != '<')).length ≤ (cs.dropWhile isSpace).length :=
    (List.dropWhile_suffix _).length_le
  have shorter := Markup.length_of_cut _cut
  rw [_after] at run
  simp only [List.length_cons] at run
  omega

/-- The scan of a document, which may start with a byte order mark. -/
def scanDocument (s : String) : Scan :=
  match s.toList with
  | '\uFEFF' :: cs => scan cs
  | cs => scan cs

end XmlEvent

end RestService
