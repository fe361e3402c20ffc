import RestService.Yaml.Resolve
import RestService.Yaml.Scalar
import RestService.Yaml.Token

set_option autoImplicit false

namespace RestService.YamlTree

def isLineBreak (c : Char) : Bool := c == '\r' || c == '\u0085' || Yaml.isBreak c

/-- The characters that can stand in a document as they are. -/
def isPrintable (c : Char) : Bool :=
  let n := c.toNat
  n == 0x0A || (0x20 ≤ n && n ≤ 0x7E) || (0xA0 ≤ n && n != 0xFEFF && n != 0xFFFE && n != 0xFFFF)

/-- Blanks, line breaks and NUL. -/
def isSpaceLike (c : Char) : Bool := c == ' ' || c == '\t' || c == '\x00' || isLineBreak c

/-- How a text is written. -/
inductive Style
  | plain
  | singleQuoted
  | doubleQuoted
  | lines
  deriving DecidableEq, Repr

/-- Whether some character and the one after it satisfy the conditions. -/
def hasPair (first second : Char → Bool) : List Char → Bool
  | a :: b :: cs => (first a && second b) || hasPair first second (b :: cs)
  | _ => false

/-- Whether a text starts with a marker for the start or the end of a document. -/
def startsWithMarker : List Char → Bool
  | '-' :: '-' :: '-' :: _ | '.' :: '.' :: '.' :: _ => true
  | _ => false

/-- Whether the first character, before the others, would be an indicator. -/
def startsWithIndicator : List Char → Bool
  | [] => false
  | c :: cs =>
    "#,[]{}&*!|>'\"%@`".toList.contains c
      || ((c == '?' || c == ':' || c == '-') && (cs.head?.map isSpaceLike).getD true)

/-- Whether a colon before a space or at the end, or a number sign after a space, would be an
indicator. -/
def hasIndicator (cs : List Char) : Bool :=
  hasPair (· == ':') isSpaceLike cs || cs.getLast? == some ':' || hasPair isSpaceLike (· == '#') cs

private def isSpace (c : Char) : Bool := c == ' '

/-- A character at an end of a text that a plain scalar cannot have there. -/
def isEdge : Option Char → Bool
  | some c => c == ' ' || isLineBreak c
  | none => false

/-- Whether the text can stand in single quotes. -/
def allowsSingle (cs : List Char) : Bool :=
  cs.all isPrintable && !hasPair isLineBreak isSpace cs && !hasPair isSpace isLineBreak cs

/-- Whether the text can stand as it is. -/
def allowsPlain (cs : List Char) : Bool :=
  allowsSingle cs && !cs.any isLineBreak && !isEdge cs.head? && !isEdge cs.getLast?
    && !startsWithMarker cs && !startsWithIndicator cs && !hasIndicator cs

/-- Whether the text can stand as a block of lines. -/
def allowsLines (cs : List Char) : Bool :=
  cs.all isPrintable && !hasPair isSpace isLineBreak cs && cs.getLast? != some ' '

/-- Whether a plain scalar would read back as this text. -/
def readsAsText (s : String) : Bool :=
  match Yaml.plainValue s with
  | .text => !Yaml.isPaddedDigits s.toList
  | _ => false

def styleOf (s : String) : Style :=
  let cs := s.toList
  if cs.contains '\n' then (if allowsLines cs then .lines else .doubleQuoted)
  else if readsAsText s && allowsPlain cs then .plain
  else if allowsSingle cs then .singleQuoted
  else .doubleQuoted

/-- Output, last character first. -/
abbrev Output := List Char

namespace Output

def add (out : Output) (cs : List Char) : Output := cs.reverse ++ out

/-- Whether a line has been started. -/
def isInLine : Output → Bool
  | [] => false
  | c :: _ => !isLineBreak c

/-- At the front of a line, indented. -/
def freshLine (out : Output) (indent : Nat) : Output :=
  add (if out.isInLine then '\n' :: out else out) (List.replicate indent ' ')

/-- At the front of the next line of a text in quotes, which is never the same line without
indentation. -/
def textLine (out : Output) (indent : Nat) : Output :=
  if indent = 0 then '\n' :: out else out.freshLine indent

/-- After a blank, unless the output is empty. -/
def space (out : Output) : Output := if out.isInLine then ' ' :: out else out

end Output

/-- The upper-case hexadecimal digits of a number, in a given width. -/
def paddedHex : Nat → Nat → List Char
  | 0, _ => []
  | width + 1, n => paddedHex width (n / 16) ++ [(Nat.digitChar (n % 16)).toUpper]

/-- An escape by number, as short as possible. -/
def numberEscape (n : Nat) : List Char :=
  if n ≤ 0xFF then 'x' :: paddedHex 2 n
  else if n ≤ 0xFFFF then 'u' :: paddedHex 4 n
  else 'U' :: paddedHex 8 n

def escapeLetter? : Char → Option Char
  | '\x00' => some '0'
  | '\x07' => some 'a'
  | '\x08' => some 'b'
  | '\t' => some 't'
  | '\n' => some 'n'
  | '\x0b' => some 'v'
  | '\x0c' => some 'f'
  | '\r' => some 'r'
  | '\x1b' => some 'e'
  | '"' => some '"'
  | '\\' => some '\\'
  | '\u0085' => some 'N'
  | '\u2028' => some 'L'
  | '\u2029' => some 'P'
  | _ => none

def doubleQuotedChar (c : Char) : List Char :=
  if isPrintable c && !isLineBreak c && c != '"' && c != '\\' then [c]
  else '\\' :: match escapeLetter? c with
    | some letter => [letter]
    | none => numberEscape c.toNat

/-- A text inside single quotes. Its line breaks are separators of Unicode; what follows one stands
on a line of its own. -/
def singleQuotedRest (indent : Nat) (broken : Bool) (out : Output) : List Char → Output
  | [] => '\'' :: if broken then out.textLine indent else out
  | c :: cs =>
    if isLineBreak c then singleQuotedRest indent true (c :: out) cs
    else if c = ' ' then singleQuotedRest indent broken (' ' :: out) cs
    else
      let front := if broken then out.textLine indent else out
      singleQuotedRest indent false (if c = '\'' then '\'' :: '\'' :: front else c :: front) cs

def writtenLines (indent : Nat) (broken : Bool) (out : Output) : List Char → Output
  | [] => out
  | c :: cs =>
    if isLineBreak c then writtenLines indent true (c :: out) cs
    else
      let out := if broken then out.freshLine indent else out
      writtenLines indent false (c :: out) cs

/-- The header of a block of lines: its indentation, if the text does not start with a visible
character, and what becomes of the breaks at its end. -/
def blockHeader (cs : List Char) : List Char :=
  let indentation :=
    if (cs.head?.map fun c => c == ' ' || isLineBreak c).getD false then ['2'] else []
  let chomping := match cs.reverse with
    | [] => ['-']
    | [last] => if isLineBreak last then ['+'] else ['-']
    | last :: before :: _ =>
      if !isLineBreak last then ['-'] else if isLineBreak before then ['+'] else []
  '|' :: indentation ++ chomping

def writtenText (indent : Nat) (out : Output) (s : String) : Output :=
  let cs := s.toList
  match styleOf s with
  | .plain => out.add cs
  | .singleQuoted => singleQuotedRest indent false ('\'' :: out) cs
  | .doubleQuoted => out.add ('"' :: cs.flatMap doubleQuotedChar ++ ['"'])
  | .lines => writtenLines indent true ('\n' :: out.add (blockHeader cs)) cs

/-- The characters that stand in tags as they are. -/
def isPlainTagChar (c : Char) : Bool :=
  Yaml.isWordChar c || ";/?:@&=+$,.~*'()[]".toList.contains c

/-- A character of a tag, each byte of it escaped if it cannot stand as it is. -/
def tagChar (c : Char) : List Char :=
  if isPlainTagChar c then [c]
  else c.toString.toUTF8.toList.flatMap fun b => '%' :: paddedHex 2 b.toNat

/-- The name in a tag, which a NUL ends. -/
def tagName (tag : String) : List Char :=
  let name := match (bareTag tag).toList with
    | '!' :: name => name
    | name => name
  name.takeWhile (· != '\x00')

/-- A tag: an exclamation mark and the name, which is in angle brackets if it is an exclamation
mark. -/
def writtenTag (tag : String) : List Char :=
  let name := tagName tag
  if name.isEmpty then "!<%21>".toList else '!' :: name.flatMap tagChar

def isShortKey (s : String) : Bool := !s.toList.any isLineBreak && s.utf8ByteSize ≤ 128

/-- Where a node stands: at the front of the document, after the indicator of an entry, or after a
key. -/
inductive Place
  | front
  | entry
  | afterKey
  deriving DecidableEq, Repr

/-- The indentation of the parts of a block that starts at a place inside a block indented by
`indent`. -/
def partIndent : Place → Nat → Nat
  | .front, _ => 0
  | .entry, indent | .afterKey, indent => indent + 2

def itemIndent : Place → Nat → Nat
  | .afterKey, indent => indent
  | place, indent => partIndent place indent

def textIndent : Place → Nat → Nat
  | .front, _ => 2
  | _, indent => indent + 2

/-- The output at the front of a part of a block. The first part of a block may stand on the line of
an indicator, but not on that of a key or a tag. -/
def partFront (inLine : Bool) (indent : Nat) (out : Output) : Output :=
  if inLine then out.space else out.freshLine indent

/-- A text as a key, with the indicators around it. One that is not short is announced by a question
mark. -/
def writtenTextKey (indent : Nat) (out : Output) (s : String) : Output :=
  if isShortKey s then ':' :: writtenText (indent + 2) out s
  else ':' :: (writtenText (indent + 2) (' ' :: '?' :: out) s).freshLine indent

/-- Where the value for a text as a key stands. -/
def placeAfterKey (s : String) : Place := if isShortKey s then .afterKey else .entry

mutual

/-- A node at a place inside a block indented by `indent`. -/
def written (place : Place) (indent : Nat) (tagged : Bool) (out : Output) : YamlTree → Output
  | .null => out.space.add "null".toList
  | .bool b => out.space.add (if b then "true" else "false").toList
  | .integer n => out.space.add (toString n).toList
  | .float x => out.space.add (floatText x).toList
  | .text s => writtenText (textIndent place indent) out.space s
  | .sequence [] => out.space.add "[]".toList
  | .sequence items =>
    let inner := if tagged then partIndent place indent else itemIndent place indent
    writtenItems (place = .entry && !tagged) inner out items
  | .mapping [] => out.space.add ['{', '}']
  | .mapping entries =>
    writtenEntries (place = .entry && !tagged) (partIndent place indent) out entries
  | .tagged tag content => written place indent true (out.space.add (writtenTag tag)) content

def writtenItems (inLine : Bool) (indent : Nat) (out : Output) : List YamlTree → Output
  | [] => out
  | item :: items =>
    let out := written .entry indent false ('-' :: partFront inLine indent out) item
    writtenItems false indent out items

/-- The entries of a mapping, the first on the line of the output if `inLine`. -/
def writtenEntries (inLine : Bool) (indent : Nat) (out : Output) :
    List (YamlTree × YamlTree) → Output
  | [] => out
  | (.text s, value) :: entries =>
    let out := writtenTextKey indent (partFront inLine indent out) s
    writtenEntries false indent (written (placeAfterKey s) indent false out value) entries
  | (key, value) :: entries =>
    let out := written .entry indent false ('?' :: partFront inLine indent out) key
    let out := written .entry indent false (':' :: out.freshLine indent) value
    writtenEntries false indent out entries

end

def write (tree : YamlTree) : String :=
  String.ofList ((written .front 0 false [] tree).freshLine 0).reverse

end RestService.YamlTree
