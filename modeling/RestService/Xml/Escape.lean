import RestService.Decimal.Integer
import RestService.Text.Pieces

set_option autoImplicit false

namespace RestService.XmlElement

/-- A character as it is written between tags. -/
def escapedChar : Char → List Char
  | '<' => "&lt;".toList
  | '>' => "&gt;".toList
  | '&' => "&amp;".toList
  | '\'' => "&apos;".toList
  | '"' => "&quot;".toList
  | c => [c]

def escape (cs : List Char) : List Char := cs.flatMap escapedChar

/-- The character of a number other than zero. -/
def numberedChar? (n : Nat) : Option Char :=
  if n ≠ 0 ∧ n.isValidChar then some (Char.ofNat n) else none

/-- The character that a reference stands for, without its ampersand and semicolon. -/
def referenced? : List Char → Option Char
  | '#' :: 'x' :: digits => (Decimal.nat? 16 digits).bind numberedChar?
  | '#' :: digits => (Decimal.nat? 10 digits).bind numberedChar?
  | name =>
    if name = "lt".toList then some '<'
    else if name = "gt".toList then some '>'
    else if name = "amp".toList then some '&'
    else if name = "apos".toList then some '\''
    else if name = "quot".toList then some '"'
    else none

/-- The rest of a text inside a reference of which `name` has been read, or outside of any. No
reference holds an ampersand. -/
def unescapeFrom? : Option (List Char) → List Char → Option (List Char)
  | none, [] => some []
  | some _, [] => none
  | none, '&' :: cs => unescapeFrom? (some []) cs
  | none, c :: cs => (unescapeFrom? none cs).map (c :: ·)
  | some _, '&' :: _ => none
  | some name, ';' :: cs =>
    match referenced? name with
    | some c => (unescapeFrom? none cs).map (c :: ·)
    | none => none
  | some name, c :: cs => unescapeFrom? (some (name ++ [c])) cs

/-- The characters that a text between tags stands for. -/
def unescape? (cs : List Char) : Option (List Char) := unescapeFrom? none cs

end RestService.XmlElement
