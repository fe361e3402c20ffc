import RestService.Text.DirectionTable
import RestService.Text.LetterTable
import RestService.Text.MarkTable

set_option autoImplicit false

namespace RestService.Text

/-- What a character says about the direction of a word. -/
inductive Direction
  /-- From left to right. -/
  | leftward
  /-- From right to left. -/
  | rightward
  | europeanNumber
  | arabicNumber
  | neutral
  /-- A mark has the direction of the character before it. -/
  | mark
  deriving DecidableEq, Repr

def directionOf (c : Char) : Direction :=
  let covers (ranges : List (Nat × Nat)) : Bool := LetterTable.covers ranges c.toNat
  if c.toNat < 0x80 then
    if c.isAlpha then .leftward else if c.isDigit then .europeanNumber else .neutral
  else if covers DirectionTable.rightward then .rightward
  else if covers DirectionTable.arabicNumbers then .arabicNumber
  else if covers DirectionTable.europeanNumbers then .europeanNumber
  else if covers MarkTable.nonspacing && !DirectionTable.leftwardMarks.contains c.toNat then .mark
  else if covers DirectionTable.neutral then .neutral
  else .leftward

/-- Whether a word makes the text that it stands in one of both directions. -/
def mixesDirections (word : List Char) : Bool :=
  word.any fun c => directionOf c == .rightward || directionOf c == .arabicNumber

/-- Whether a word, by the directions of its characters, keeps its shape in a text of both
directions. It starts with a letter, has no letters of the other direction, and ends in a letter or
a number ahead of its last marks. From right to left it has numbers of one kind only, from left to
right no Arabic ones. -/
def keepsShape : List Direction → Bool
  | [] => true
  | first :: rest =>
    let solid := (first :: rest).reverse.dropWhile (· == .mark)
    let last := solid.head?.getD first
    match first with
    | .leftward =>
      (last == .leftward || last == .europeanNumber)
        && !rest.contains .rightward && !rest.contains .arabicNumber
    | .rightward =>
      (last == .rightward || last == .europeanNumber || last == .arabicNumber)
        && !rest.contains .leftward
        && !(rest.contains .europeanNumber && rest.contains .arabicNumber)
    | _ => false

end RestService.Text
