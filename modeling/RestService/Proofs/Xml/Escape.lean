import Mathlib.Data.List.Basic
import Mathlib.Data.List.TakeWhile
import RestService.Proofs.Text.Blank
import RestService.Xml.Event

set_option autoImplicit false

namespace RestService.XmlElement

/-- The characters that have a form of their own between tags. -/
def isEscaped (c : Char) : Bool := c == '<' || c == '>' || c == '&' || c == '\'' || c == '"'

theorem isEscaped_cases {c : Char} (escaped : isEscaped c = true) :
    c = '<' ∨ c = '>' ∨ c = '&' ∨ c = '\'' ∨ c = '"' := by
  simpa [isEscaped, or_assoc] using escaped

theorem escapedChar_of_plain {c : Char} (plain : isEscaped c = false) : escapedChar c = [c] := by
  simp only [isEscaped, Bool.or_eq_false_iff, beq_eq_false_iff_ne] at plain
  unfold escapedChar
  split <;> simp_all

theorem unescapeFrom?_escapedChar (c : Char) (rest : List Char) :
    unescapeFrom? none (escapedChar c ++ rest) = (unescapeFrom? none rest).map (c :: ·) := by
  cases kind : isEscaped c with
  | true => rcases isEscaped_cases kind with rfl | rfl | rfl | rfl | rfl <;> rfl
  | false =>
    rw [escapedChar_of_plain kind, List.singleton_append]
    rw [unescapeFrom?]
    intro same
    rw [same] at kind
    cases kind

/-- Escaping is undone. -/
theorem unescape?_escape (cs : List Char) : unescape? (escape cs) = some cs := by
  unfold unescape? escape
  induction cs with
  | nil => rfl
  | cons c cs ih => rw [List.flatMap_cons, unescapeFrom?_escapedChar, ih, Option.map_some]

theorem escapedChar_ne_tag (c : Char) : ∀ d ∈ escapedChar c, d ≠ '<' := by
  cases kind : isEscaped c with
  | true =>
    have all : (escapedChar c).all (· != '<') = true := by
      rcases isEscaped_cases kind with rfl | rfl | rfl | rfl | rfl <;> rfl
    exact fun d mem => bne_iff_ne.1 (List.all_eq_true.1 all d mem)
  | false =>
    rw [escapedChar_of_plain kind, List.forall_mem_singleton]
    intro same
    rw [same] at kind
    cases kind

theorem escape_ne_tag (cs : List Char) : ∀ d ∈ escape cs, d ≠ '<' := by
  intro d mem
  obtain ⟨c, -, inside⟩ := List.mem_flatMap.1 mem
  exact escapedChar_ne_tag c d inside

end RestService.XmlElement

namespace RestService.XmlEvent

/-- Characters with no space at either end. -/
structure Tight (cs : List Char) : Prop where
  front : ∀ c ∈ cs.head?, isSpace c = false
  back : ∀ c ∈ cs.getLast?, isSpace c = false

theorem dropWhile_of_head {p : Char → Bool} {cs : List Char} (front : ∀ c ∈ cs.head?, p c = false) :
    cs.dropWhile p = cs := by
  cases cs with
  | nil => rfl
  | cons c cs =>
    have solid : p c = false := front c rfl
    rw [List.dropWhile_cons, solid, if_neg Bool.false_ne_true]

theorem Tight.trimEnd_eq {cs : List Char} (tight : Tight cs) : trimEnd cs = cs := by
  have front : ∀ c ∈ cs.reverse.head?, isSpace c = false := by
    intro c mem
    rw [List.head?_reverse] at mem
    exact tight.back c mem
  rw [trimEnd, dropWhile_of_head front, List.reverse_reverse]

def trimSpaces (cs : List Char) : List Char := trimEnd (cs.dropWhile isSpace)

theorem Tight.trimSpaces_eq {cs : List Char} (tight : Tight cs) : trimSpaces cs = cs := by
  rw [trimSpaces, dropWhile_of_head tight.front, tight.trimEnd_eq]

theorem trimEnd_append (cs : List Char) {back : List Char} (blank : ∀ c ∈ back, isSpace c = true) :
    trimEnd (cs ++ back) = trimEnd cs := by
  have reversed : ∀ c ∈ back.reverse, isSpace c = true :=
    fun c mem => blank c (List.mem_reverse.1 mem)
  rw [trimEnd, List.reverse_append, List.dropWhile_append_of_pos reversed, trimEnd]

/-- What trimming takes away are spaces, and between them the text has none at its ends. -/
theorem exists_spaces (cs : List Char) : ∃ front back, cs = front ++ (trimSpaces cs ++ back)
    ∧ (∀ c ∈ front, isSpace c = true) ∧ (∀ c ∈ back, isSpace c = true)
    ∧ (trimSpaces cs = [] → back = []) ∧ Tight (trimSpaces cs) := by
  let inside := cs.dropWhile isSpace
  let back := (inside.reverse.takeWhile isSpace).reverse
  have ahead : ∀ c ∈ inside.head?, isSpace c = false := by
    intro c mem
    have stopped := List.head?_dropWhile_not isSpace cs
    rw [show (cs.dropWhile isSpace).head? = some c from mem] at stopped
    simpa using stopped
  have layout : inside = trimSpaces cs ++ back := by
    rw [trimSpaces, trimEnd, ← List.reverse_append, List.takeWhile_append_dropWhile,
      List.reverse_reverse]
  have blank : ∀ c ∈ back, isSpace c = true :=
    fun c mem => List.mem_takeWhile_imp (List.mem_reverse.1 mem)
  refine ⟨cs.takeWhile isSpace, back, ?_, fun c => List.mem_takeWhile_imp, blank, fun none => ?_,
    ⟨fun c mem => ?_, fun c mem => ?_⟩⟩
  · rw [← layout, List.takeWhile_append_dropWhile]
  · rw [none, List.nil_append] at layout
    cases spaces : back with
    | nil => rfl
    | cons c more =>
      rw [layout, spaces] at ahead
      have solid := ahead c rfl
      rw [blank c (spaces ▸ List.mem_cons_self)] at solid
      cases solid
  · refine ahead c ?_
    rw [layout, List.head?_append]
    exact Option.mem_def.2 (by rw [mem]; rfl)
  · rw [trimSpaces, trimEnd, List.getLast?_reverse] at mem
    have stopped := List.head?_dropWhile_not isSpace (cs.dropWhile isSpace).reverse
    rw [mem] at stopped
    simpa using stopped

theorem isBlank_of_isSpace {c : Char} (space : isSpace c = true) : Text.isBlank c = true := by
  simp only [isSpace, Bool.or_eq_true, beq_iff_eq, or_assoc] at space
  rcases space with rfl | rfl | rfl | rfl <;> decide

/-- Text without blanks at its ends has no spaces there. -/
theorem tight_of_trim {s : String} (trimmed : Text.trim s = s) : Tight s.toList := by
  have solid {c : Char} (kept : Text.isBlank c = false) : isSpace c = false := by
    cases space : isSpace c with
    | false => rfl
    | true => exact absurd (isBlank_of_isSpace space) (Bool.eq_false_iff.1 kept)
  obtain ⟨front, back⟩ := Text.solid_of_trim trimmed
  exact ⟨fun c mem => solid (front c mem), fun c mem => solid (back c mem)⟩

end RestService.XmlEvent

namespace RestService.XmlElement

open XmlEvent (isSpace Tight)

theorem isSpace_escapedChar {c : Char} (solid : isSpace c = false) :
    ∀ d ∈ escapedChar c, isSpace d = false := by
  cases kind : isEscaped c with
  | true =>
    have all : (escapedChar c).all (fun d => !isSpace d) = true := by
      rcases isEscaped_cases kind with rfl | rfl | rfl | rfl | rfl <;> rfl
    intro d mem
    simpa using List.all_eq_true.1 all d mem
  | false =>
    rw [escapedChar_of_plain kind, List.forall_mem_singleton]
    exact solid

theorem escapedChar_ne_nil (c : Char) : escapedChar c ≠ [] := by
  unfold escapedChar
  split <;> simp

/-- Escaping adds no space to an end of a text. -/
theorem tight_escape {cs : List Char} (tight : Tight cs) : Tight (escape cs) := by
  constructor
  · intro d mem
    cases cs with
    | nil => cases mem
    | cons c cs =>
      rw [escape, List.flatMap_cons, List.head?_append_of_ne_nil _ (escapedChar_ne_nil c)] at mem
      exact isSpace_escapedChar (tight.front c rfl) d (List.mem_of_mem_head? mem)
  · intro d mem
    rcases List.eq_nil_or_concat' cs with rfl | ⟨cs, c, rfl⟩
    · cases mem
    · rw [escape, List.flatMap_append, List.flatMap_singleton,
        List.getLast?_append_of_ne_nil _ (escapedChar_ne_nil c)] at mem
      exact isSpace_escapedChar (tight.back c (by simp)) d (List.mem_of_mem_getLast? mem)

theorem escape_ne_nil {cs : List Char} (some : cs ≠ []) : escape cs ≠ [] := by
  cases cs with
  | nil => exact absurd rfl some
  | cons c cs =>
    intro none
    rw [escape, List.flatMap_cons] at none
    exact escapedChar_ne_nil c (List.append_eq_nil_iff.1 none).1

/-- Spaces stand for themselves. -/
theorem escape_of_isSpace {cs : List Char} (blank : ∀ c ∈ cs, isSpace c = true) :
    escape cs = cs := by
  induction cs with
  | nil => rfl
  | cons c cs ih =>
    obtain ⟨here, later⟩ := List.forall_mem_cons.1 blank
    have plain : isEscaped c = false := by
      cases kind : isEscaped c with
      | false => rfl
      | true => rcases isEscaped_cases kind with rfl | rfl | rfl | rfl | rfl <;> cases here
    rw [escape, List.flatMap_cons, escapedChar_of_plain plain]
    exact congrArg (c :: ·) (ih later)

end RestService.XmlElement
