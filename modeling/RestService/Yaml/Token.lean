import RestService.Decimal.Integer
import RestService.Yaml.Source

set_option autoImplicit false

namespace RestService.Yaml

/-- A token. Tags are bytes, since escapes in them stand for bytes. -/
inductive Token
  | version (major minor : Nat)
  | tagHandle (handle : String) (expansion : List UInt8)
  | documentStart
  | documentEnd
  | blockSequenceStart
  | blockMappingStart
  | blockEnd
  | flowSequenceStart
  | flowSequenceEnd
  | flowMappingStart
  | flowMappingEnd
  | blockEntry
  | flowEntry
  | key
  | value
  | alias (name : String)
  | anchor (name : String)
  | tag (handle : String) (suffix : List UInt8)
  | scalar (text : String) (plain : Bool)
  deriving DecidableEq, Repr

/-- ASCII letters, digits, the underscore and the hyphen. -/
def isWordChar (c : Char) : Bool := c.isAlphanum || c == '_' || c == '-'

/-- The word at the front, and what follows it. -/
def readWord (ps : List Placed) : String × List Placed :=
  (String.ofList ((ps.takeWhile fun p => isWordChar p.char).map Placed.char),
    ps.dropWhile fun p => isWordChar p.char)

/-- The characters that may follow an anchor, other than gaps. -/
def isAnchorEnd (c : Char) : Bool :=
  c == '?' || c == ':' || c == ',' || c == ']' || c == '}' || c == '%' || c == '@' || c == '`'

def readAnchorName (ps : List Placed) : Except Problem (String × List Placed) :=
  let (name, rest) := readWord ps
  if name ≠ "" ∧ (isGap (firstChar rest) || isAnchorEnd (firstChar rest)) then .ok (name, rest)
  else .error .illegalAnchor

/-- The characters of tags; `verbatim` ones stand in angle brackets and may hold flow indicators. -/
def isTagChar (verbatim : Bool) (c : Char) : Bool :=
  isWordChar c || ";/?:@&=+$.!~*'()".toList.contains c
    || (verbatim && (c == ',' || c == '[' || c == ']'))

/-- How many bytes follow the first byte of a character in UTF-8. -/
def trailingBytes? (n : Nat) : Option Nat :=
  if n < 0x80 then some 0
  else if 0xC0 ≤ n ∧ n < 0xE0 then some 1
  else if 0xE0 ≤ n ∧ n < 0xF0 then some 2
  else if 0xF0 ≤ n ∧ n < 0xF8 then some 3
  else none

/-- The bytes of a tag; `owed` bytes of a character are still to come, all escaped. -/
def tagBytes (verbatim : Bool) (owed : Nat) :
    List Placed → Except Problem (List UInt8 × List Placed)
  | p :: ps =>
    if p.char == '%' then
      match ps with
      | a :: b :: rest =>
        match Decimal.nat? 16 [a.char, b.char] with
        | none => .error .illegalTag
        | some n =>
          let owed? := if owed = 0 then trailingBytes? n
            else if 0x80 ≤ n ∧ n < 0xC0 then some (owed - 1) else none
          match owed? with
          | none => .error .illegalTag
          | some owed =>
            (tagBytes verbatim owed rest).map fun (bytes, rest) => (UInt8.ofNat n :: bytes, rest)
      | _ => .error .illegalTag
    else if 0 < owed then .error .illegalTag
    else if isTagChar verbatim p.char then
      (tagBytes verbatim 0 ps).map fun (bytes, rest) => (UInt8.ofNat p.char.toNat :: bytes, rest)
    else .ok ([], p :: ps)
  | [] => if 0 < owed then .error .illegalTag else .ok ([], [])

/-- The bytes up to a zero byte. -/
def untilZero (bytes : List UInt8) : List UInt8 := bytes.takeWhile (· != 0)

/-- The bytes of an ASCII text. -/
def asciiBytes (s : String) : List UInt8 := s.toList.map fun c => UInt8.ofNat c.toNat

/-- A tag that must not be empty, and what follows it. -/
def readTagBytes (verbatim : Bool) (ps : List Placed) :
    Except Problem (List UInt8 × List Placed) := do
  let (bytes, rest) ← tagBytes verbatim 0 ps
  if rest.length = ps.length then throw .illegalTag
  return (untilZero bytes, rest)

/-- A handle and the suffix of a tag, whose exclamation mark has been read. A handle is empty for a
tag in angle brackets and for the tag `!`, which is its own suffix; it has a second exclamation mark
or is one. -/
def readTagParts (ps : List Placed) : Except Problem (String × List UInt8 × List Placed) := do
  if firstChar ps = '<' then
    let (suffix, rest) ← readTagBytes true (ps.drop 1)
    if firstChar rest = '>' then return ("", suffix, rest.drop 1) else throw .illegalTag
  let (word, rest) := readWord ps
  if firstChar rest = '!' then
    let (suffix, rest) ← readTagBytes false (rest.drop 1)
    return ("!" ++ word ++ "!", suffix, rest)
  let (bytes, rest) ← tagBytes false 0 rest
  let suffix := asciiBytes word ++ untilZero bytes
  if suffix.isEmpty then return ("", asciiBytes "!", rest) else return ("!", suffix, rest)

/-- The tag whose exclamation mark has been read; a gap, or a comma inside brackets, must follow it.
-/
def readTag (flow : Bool) (ps : List Placed) : Except Problem (Token × List Placed) := do
  let (handle, suffix, rest) ← readTagParts ps
  if isGap (firstChar rest) || (flow && firstChar rest == ',') then
    return (.tag handle suffix, rest)
  else throw .illegalTag

def skipBlanks (ps : List Placed) : List Placed := ps.dropWhile fun p => isBlank p.char

/-- A number of at most nine digits. -/
def readVersionPart (ps : List Placed) : Except Problem (Nat × List Placed) :=
  let digits := (ps.takeWhile fun p => p.char.isDigit).map Placed.char
  match Decimal.nat? 10 digits with
  | some n =>
    if digits.length ≤ 9 then .ok (n, ps.drop digits.length) else .error .illegalDirective
  | none => .error .illegalDirective

/-- The directive whose percent sign has been read. -/
def readDirective (ps : List Placed) : Except Problem (Token × List Placed) := do
  let (name, rest) := readWord ps
  let after := skipBlanks rest
  if !isGap (firstChar rest) then throw .illegalDirective
  let (token, rest) ←
    if name = "YAML" then do
      let (major, rest) ← readVersionPart after
      if firstChar rest ≠ '.' then throw Problem.illegalDirective
      let (minor, rest) ← readVersionPart (rest.drop 1)
      pure (Token.version major minor, rest)
    else if name = "TAG" then do
      if firstChar after ≠ '!' then throw .illegalDirective
      let (word, rest) := readWord (after.drop 1)
      let (handle, rest) ←
        if firstChar rest = '!' then pure ("!" ++ word ++ "!", rest.drop 1)
        else if word = "" then pure ("!", rest)
        else throw .illegalDirective
      if !isBlank (firstChar rest) then throw .illegalDirective
      let (expansion, rest) ← readTagBytes true (skipBlanks rest)
      if !isGap (firstChar rest) then throw .illegalDirective
      pure (Token.tagHandle handle expansion, rest)
    else throw .illegalDirective
  let rest := lineEnd rest
  if isBreakOrEnd (firstChar rest) then return (token, skipBreak rest)
  else throw .illegalDirective

end RestService.Yaml
