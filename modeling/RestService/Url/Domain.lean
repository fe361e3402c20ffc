import RestService.Text.Case
import RestService.Text.Composition
import RestService.Text.Direction
import RestService.Text.Joining
import RestService.Text.PrintTable
import RestService.Url.DomainTable
import RestService.Url.Percent
import RestService.Url.Punycode

set_option autoImplicit false

namespace RestService.Domain

/-- Characters without a shape that cannot be used, and the visible ones that cannot. -/
def isUnusable (c : Char) : Bool :=
  let covers (ranges : List (Nat × Nat)) : Bool := Text.LetterTable.covers ranges c.toNat
  covers Table.unusable
    || (covers Text.PrintTable.invisible && c != Text.joiner && c != Text.nonJoiner)

/-- The text that stands in a row of variants for a code point. -/
def variant? (n : Nat) : Option (List Char) :=
  match (Table.variants.takeWhile fun (first, _) => first ≤ n).getLast? with
  | some (first, texts) => (Text.pieces ' ' texts.toList)[n - first]?
  | none => none

/-- What a character stands for, if it can be used. -/
def meaning? (c : Char) : Option (List Char) :=
  if c.toNat < 0x80 then some [c.toLower]
  else if Text.LetterTable.covers Table.ignored c.toNat then some []
  else if isUnusable c then none
  else match Text.CaseTable.delta? Table.shifts c.toNat, variant? c.toNat with
    | some delta, _ => some [Char.ofNat (c.toNat + delta).toNat]
    | none, some text => some text
    | none, none => some (Text.lowerChar c)

/-- The characters of ASCII that no domain may hold. -/
def isForbidden (c : Char) : Bool :=
  Percent.isControl c || " %#/:<>?@[\\]^|".toList.contains c

/-- A text in the form in which it is looked up. -/
def uniform? (cs : List Char) : Option (List Char) := do
  let plain := Text.composed (← cs.mapM meaning?).flatten
  if plain.any isForbidden then none else return plain

/-- The mark of labels that are written in Punycode. -/
def punycodeMark : List Char := "xn--".toList

def isAscii (label : List Char) : Bool := label.all fun c => c.toNat < 0x80

/-- A label in its two forms. -/
structure Label where
  /-- As it is read. -/
  shown : List Char
  /-- As it is written, in ASCII. -/
  written : List Char
  deriving DecidableEq, Repr

/-- The largest number of characters that a label may have, and of digits in a written one. -/
def maxShown : Nat := 1000
def maxDigits : Nat := 2000

/-- Whether a label that is not ASCII does not start with a mark and has joiners only where they
mean something. -/
def isSound (label : List Char) : Bool :=
  label.length ≤ maxShown && !(label.head?.map Text.isMark).getD false && Text.joinersFit [] label

/-- The label that is written in Punycode with these digits. -/
def labelOfDigits? (digits : List Char) : Option Label := do
  if maxDigits < digits.length then none
  let shown ← Punycode.decode digits
  if !isAscii shown && uniform? shown == some shown && !shown.contains '.' && isSound shown
      && Punycode.encode shown == digits then
    return ⟨shown, punycodeMark ++ digits⟩
  else none

/-- The label of a part of a uniform text. -/
def label? (cs : List Char) : Option Label :=
  if punycodeMark.isPrefixOf cs then
    if isAscii cs then labelOfDigits? (cs.drop punycodeMark.length) else none
  else if isAscii cs then some ⟨cs, cs⟩
  else if isSound cs then some ⟨cs, punycodeMark ++ Punycode.encode cs⟩
  else none

/-- A domain as it is written. If one label is written from right to left, all have to keep their
shape. -/
def written? (cs : List Char) : Option (List Char) := do
  let labels ← (Text.pieces '.' (← uniform? cs)).mapM label?
  let mixed := labels.any fun label => Text.mixesDirections label.shown
  if mixed && !labels.all fun label => Text.keepsShape (label.shown.map Text.directionOf) then none
  else return Text.unite '.' (labels.map Label.written)

end RestService.Domain
