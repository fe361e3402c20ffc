import RestService.Text.Composition
import RestService.Text.JoiningTable

set_option autoImplicit false

namespace RestService.Text

/-- The character that keeps two letters apart. -/
def nonJoiner : Char := '\u200c'

/-- The character that joins two letters. -/
def joiner : Char := '\u200d'

/-- The combining class of the marks that take away a vowel. -/
def vowelKiller : Nat := 9

/-- Characters that two letters join across. -/
def isTransparent (c : Char) : Bool :=
  LetterTable.covers MarkTable.nonspacing c.toNat || c.toNat == 0x1E94B

/-- Whether the first character that is not joined across lies in one of the ranges. -/
def meets (ranges : List (Nat × Nat)) (cs : List Char) : Bool :=
  match cs.dropWhile isTransparent with
  | c :: _ => LetterTable.covers ranges c.toNat
  | [] => false

/-- Whether both characters mean something wherever they stand in the rest of a word, of which
`before` has been passed, nearest first. -/
def joinersFit (before : List Char) : List Char → Bool
  | [] => true
  | c :: cs =>
    let killed := (before.head?.map (combiningClass · == vowelKiller)).getD false
    let between := meets JoiningTable.next before && meets JoiningTable.previous cs
    (if c = joiner then killed else if c = nonJoiner then killed || between else true)
      && joinersFit (c :: before) cs

end RestService.Text
