import RestService.Json.Tree
import RestService.Decimal.Integer

set_option autoImplicit false

namespace RestService.JsonTree

def rawText : List Char → Option (List Char × List Char)
  | [] => none
  | '"' :: cs => some ([], cs)
  | '\\' :: c :: cs => (rawText cs).map fun (raw, rest) => ('\\' :: c :: raw, rest)
  | c :: cs => (rawText cs).map fun (raw, rest) => (c :: raw, rest)

/-- A piece of a text: a character, or one unit of UTF-16. -/
inductive TextPiece
  | char (c : Char)
  | unit (n : Nat)
  deriving DecidableEq, Repr

/-- The character for the letter of a short escape. -/
def shortEscape? : Char → Option Char
  | '"' => some '"'
  | '\\' => some '\\'
  | '/' => some '/'
  | 'b' => some '\x08'
  | 'f' => some '\x0c'
  | 'n' => some '\n'
  | 'r' => some '\r'
  | 't' => some '\t'
  | _ => none

/-- The pieces of a text as it stands between its quotes. -/
def textPieces : List Char → Except Problem (List TextPiece)
  | [] => .ok []
  | '\\' :: 'u' :: a :: b :: c :: d :: cs =>
    match Decimal.nat? 16 [a, b, c, d] with
    | some n => (textPieces cs).map (.unit n :: ·)
    | none => .error .illegalEscape
  | '\\' :: c :: cs =>
    match shortEscape? c with
    | some c => (textPieces cs).map (.char c :: ·)
    | none => .error .illegalEscape
  | c :: cs =>
    if c.toNat < 0x20 then .error .controlCharacter else (textPieces cs).map (.char c :: ·)

def isHighUnit (n : Nat) : Bool := 0xD800 ≤ n && n < 0xDC00

def isLowUnit (n : Nat) : Bool := 0xDC00 ≤ n && n < 0xE000

/-- The characters of the pieces; a unit of a pair cannot stand alone. -/
def joinPieces : List TextPiece → Except Problem (List Char)
  | [] => .ok []
  | .char c :: pieces => (joinPieces pieces).map (c :: ·)
  | .unit high :: .unit low :: pieces =>
    if isHighUnit high then
      if isLowUnit low then
        (joinPieces pieces).map
          (Char.ofNat ((high - 0xD800) * 0x400 + (low - 0xDC00) + 0x10000) :: ·)
      else .error .illegalEscape
    else if isLowUnit high then .error .illegalEscape
    else (joinPieces (.unit low :: pieces)).map (Char.ofNat high :: ·)
  | .unit n :: pieces =>
    if isHighUnit n || isLowUnit n then .error .illegalEscape
    else (joinPieces pieces).map (Char.ofNat n :: ·)

/-- The text whose opening quote has been read, and what follows it. -/
def readText (cs : List Char) : Except Problem (String × List Char) :=
  match rawText cs with
  | none => .error .unexpectedEnd
  | some (raw, rest) =>
    match textPieces raw >>= joinPieces with
    | .error problem => .error problem
    | .ok chars => .ok (String.ofList chars, rest)

/-- A character as it is written inside quotes. -/
def writtenChar (c : Char) : List Char :=
  if c = '"' then ['\\', '"']
  else if c = '\\' then ['\\', '\\']
  else if c = '\x08' then ['\\', 'b']
  else if c = '\x0c' then ['\\', 'f']
  else if c = '\n' then ['\\', 'n']
  else if c = '\r' then ['\\', 'r']
  else if c = '\t' then ['\\', 't']
  else if c.toNat < 0x20 then
    ['\\', 'u', '0', '0', Nat.digitChar (c.toNat / 16), Nat.digitChar (c.toNat % 16)]
  else [c]

/-- A text in quotes. -/
def writtenText (s : String) : List Char := '"' :: s.toList.flatMap writtenChar ++ ['"']

end RestService.JsonTree
