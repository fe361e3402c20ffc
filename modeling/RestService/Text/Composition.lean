import RestService.Text.CompositionTable
import RestService.Text.LetterTable
import RestService.Text.MarkTable
import RestService.Text.Pieces

set_option autoImplicit false

namespace RestService.Text

def isMark (c : Char) : Bool :=
  LetterTable.covers MarkTable.nonspacing c.toNat || LetterTable.covers MarkTable.spacing c.toNat

/-- The combining class of a mark; zero for any other character. -/
def combiningClass (c : Char) : Nat :=
  match MarkTable.classes.find? fun (first, last, _) => first ≤ c.toNat && c.toNat ≤ last with
  | some (_, _, number) => number
  | none => 0

def compositions : List (Char × List Char) :=
  CompositionTable.words.flatMap fun row =>
    (pieces ' ' row.toList).filterMap fun
      | [] => none
      | c :: parts => some (c, parts)

/-- The letters of the syllable of Hangul with an index: 588 syllables have the same first letter,
and 28 of them the same second one; of these, the first has no third letter. -/
def hangulParts (index : Nat) : List Char :=
  let last := index % 28
  Char.ofNat (0x1100 + index / 588) :: Char.ofNat (0x1161 + index % 588 / 28) ::
    if last = 0 then [] else [Char.ofNat (0x11A7 + last)]

/-- The index of a syllable of Hangul. -/
def hangulIndex? (c : Char) : Option Nat :=
  if 0xAC00 ≤ c.toNat ∧ c.toNat < 0xAC00 + 11172 then some (c.toNat - 0xAC00) else none

/-- The characters that a character is composed of. -/
def parts (c : Char) : List Char :=
  if c.toNat < 0x80 then [c]
  else match hangulIndex? c with
    | some index => hangulParts index
    | none => (compositions.lookup c).getD [c]

/-- The syllable of two letters of Hangul, or of a syllable without third letter and a third letter.
-/
def hangulPair? (a b : Char) : Option Char :=
  let first := a.toNat - 0x1100
  let second := b.toNat - 0x1161
  let last := b.toNat - 0x11A7
  if 0x1100 ≤ a.toNat ∧ first < 19 ∧ 0x1161 ≤ b.toNat ∧ second < 21 then
    some (Char.ofNat (0xAC00 + first * 588 + second * 28))
  else match hangulIndex? a with
    | some index =>
      if index % 28 = 0 ∧ 0x11A7 < b.toNat ∧ last < 28 then some (Char.ofNat (a.toNat + last))
      else none
    | none => none

/-- The character that stands for two. -/
def pair? (a b : Char) : Option Char :=
  match hangulPair? a b with
  | some c => some c
  | none =>
    if b.toNat < 0x80 then none
    else
      let both := parts a ++ [b]
      (compositions.find? fun (_, parts) => parts == both).map Prod.fst

/-- A character put in front of others, behind the marks of lower classes there if it is a mark
itself. -/
def placeMark (c : Char) : List Char → List Char
  | [] => [c]
  | d :: ds =>
    if 0 < combiningClass d ∧ combiningClass d < combiningClass c then d :: placeMark c ds
    else c :: d :: ds

/-- Whether marks between a character and `c` keep the two apart. -/
def blocks (marks : List Char) (c : Char) : Bool :=
  match marks.getLast? with
  | some mark => combiningClass c ≤ combiningClass mark
  | none => false

/-- The composed form of a character, marks that have not become one with it, and what follows. -/
def composeFrom (front : Char) (marks : List Char) : List Char → List Char
  | [] => front :: marks
  | c :: cs =>
    match if blocks marks c then none else pair? front c with
    | some whole => composeFrom whole marks cs
    | none =>
      if combiningClass c = 0 then front :: (marks ++ composeFrom c [] cs)
      else composeFrom front (marks ++ [c]) cs

/-- The composed form of a text. -/
def composed (cs : List Char) : List Char :=
  match (cs.flatMap parts).foldr placeMark [] with
  | [] => []
  | c :: rest => composeFrom c [] rest

end RestService.Text
