import RestService.Text.CaseTable
import RestService.Text.LetterTable

set_option autoImplicit false

namespace RestService.Text

/-- Letters, and what Unicode counts with them (property Alphabetic). -/
def isLetter (c : Char) : Bool :=
  if c.toNat < 0x80 then c.isAlpha else LetterTable.covers LetterTable.alphabetic c.toNat

/-- Characters that have, or are, a case form (property Cased). -/
def isCased (c : Char) : Bool :=
  if c.toNat < 0x80 then c.isAlpha else LetterTable.covers LetterTable.cased c.toNat

/-- Characters that do not separate words for the rule of the final sigma (property
Case_Ignorable). -/
def isCaseIgnorable (c : Char) : Bool :=
  if c.toNat < 0x80 then c == '\'' || c == '.' || c == ':' || c == '^' || c == '`'
  else LetterTable.covers LetterTable.caseIgnorable c.toNat

/-- What a pair of tables makes of a character: a long form, a shifted one, or the character. -/
def mapped (rows : List (Nat × Nat × Nat × Int)) (long : List (Nat × List Nat)) (c : Char) :
    List Char :=
  match long.lookup c.toNat with
  | some form => form.map Char.ofNat
  | none =>
    match CaseTable.delta? rows c.toNat with
    | some delta => [Char.ofNat (c.toNat + delta).toNat]
    | none => [c]

/-- The lower-case form of one character on its own. -/
def lowerChar (c : Char) : List Char :=
  if c.toNat < 0x80 then [c.toLower] else mapped CaseTable.lower CaseTable.longLower c

def upperChar (c : Char) : List Char :=
  if c.toNat < 0x80 then [c.toUpper] else mapped CaseTable.upper CaseTable.longUpper c

/-- Whether the first character of `cs` that counts for the final sigma is a cased one. -/
def meetsCased (cs : List Char) : Bool :=
  match cs.dropWhile isCaseIgnorable with
  | c :: _ => isCased c
  | [] => false

/-- The lower-case form of a character that stands after `before` (nearest first) and ahead of
`after`. -/
def lowerBetween (before : List Char) (c : Char) (after : List Char) : List Char :=
  if c = 'Σ' then (if meetsCased before && !meetsCased after then ['ς'] else ['σ'])
  else lowerChar c

/-- The lower-case form of the rest of a text of which `before` has been passed, nearest first. -/
def lowerAfter (before : List Char) : List Char → List Char
  | [] => []
  | c :: cs => lowerBetween before c cs ++ lowerAfter (c :: before) cs

def lower (s : String) : String := String.ofList (lowerAfter [] s.toList)

def upper (s : String) : String := String.ofList (s.toList.flatMap upperChar)

/-- Title case of the rest of a text; `started` tells that a run of letters has begun. -/
def titleFrom (started : Bool) : List Char → List Char
  | [] => []
  | c :: cs =>
    if isLetter c then (if started then lowerChar c else upperChar c) ++ titleFrom true cs
    else c :: titleFrom false cs

/-- The text with the first letter of each run of letters in upper case and the others in lower
case. -/
def title (s : String) : String := String.ofList (titleFrom false s.toList)

/-- The text with its ASCII letters in lower case. -/
def lowerAscii (s : String) : String := String.ofList (s.toList.map Char.toLower)

theorem lowerChar_ascii (c : Char) (ascii : c.toNat < 0x80) : lowerChar c = [c.toLower] := by
  rw [lowerChar, if_pos ascii]

theorem upperChar_ascii (c : Char) (ascii : c.toNat < 0x80) : upperChar c = [c.toUpper] := by
  rw [upperChar, if_pos ascii]

@[simp] theorem lowerAfter_nil (before : List Char) : lowerAfter before [] = [] := rfl

@[simp] theorem titleFrom_nil (started : Bool) : titleFrom started [] = [] := rfl

end RestService.Text
