import RestService.Text.Blank

set_option autoImplicit false

namespace RestService.Text

/-- The pieces between the occurrences of `sep`; there is always one more than there are
separators. -/
def pieces (sep : Char) : List Char → List (List Char)
  | [] => [[]]
  | c :: cs =>
    if c = sep then [] :: pieces sep cs
    else match pieces sep cs with
      | [] => [[c]]
      | first :: rest => (c :: first) :: rest

/-- The pieces put together with `sep` between them. -/
def unite (sep : Char) : List (List Char) → List Char
  | [] => []
  | [only] => only
  | first :: rest => first ++ sep :: unite sep rest

theorem pieces_ne_nil (sep : Char) (cs : List Char) : pieces sep cs ≠ [] := by
  cases cs with
  | nil => simp [pieces]
  | cons c cs =>
    rw [pieces]
    split
    · simp
    · split <;> simp

/-- Cutting loses nothing. -/
theorem unite_pieces (sep : Char) (cs : List Char) : unite sep (pieces sep cs) = cs := by
  induction cs with
  | nil => rfl
  | cons c cs ih =>
    rw [pieces]
    by_cases h : c = sep
    · rw [if_pos h]
      cases hp : pieces sep cs with
      | nil => exact absurd hp (pieces_ne_nil sep cs)
      | cons first rest => rw [hp] at ih; simp [unite, ih, h]
    · rw [if_neg h]
      cases hp : pieces sep cs with
      | nil => exact absurd hp (pieces_ne_nil sep cs)
      | cons first rest =>
        rw [hp] at ih
        cases rest with
        | nil => simpa [unite] using ih
        | cons second others => simpa [unite] using ih

/-- The text before the first `sep` and the text after it, if `sep` occurs. -/
def cutAt (sep : Char) : List Char → Option (List Char × List Char)
  | [] => none
  | c :: cs =>
    if c = sep then some ([], cs)
    else (cutAt sep cs).map fun (before, after) => (c :: before, after)

/-- The pieces of a text between the occurrences of `sep`. -/
def split (sep : Char) (s : String) : List String := (pieces sep s.toList).map String.ofList

/-- The text before the first `sep` and the text after it, if `sep` occurs. -/
def splitOnce (sep : Char) (s : String) : Option (String × String) :=
  (cutAt sep s.toList).map fun (before, after) => (String.ofList before, String.ofList after)

/-- One line without its carriage return, if it has one at its end. -/
private def withoutReturn (line : List Char) : List Char :=
  match line.reverse with
  | '\r' :: rest => rest.reverse
  | _ => line

/-- The lines of a text. A line ends at a line feed, or at a carriage return with a line feed; what
follows the last line feed is a line only if it is not empty. -/
def lines (s : String) : List String :=
  let cut := pieces '\n' s.toList
  let ended := cut.dropLast.map withoutReturn
  match cut.getLast? with
  | some [] | none => ended.map String.ofList
  | some last => (ended ++ [last]).map String.ofList

/-- Each text with its number, the first having number 1. -/
def numbered (texts : List String) : List (Nat × String) :=
  (List.range' 1 texts.length).zip texts

def join (sep : String) (texts : List String) : String := String.intercalate sep texts

end RestService.Text
