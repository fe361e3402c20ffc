import RestService.Yaml.Problem

set_option autoImplicit false

namespace RestService.Yaml

/-- A character and its place; lines and columns count from zero. -/
structure Placed where
  char : Char
  line : Nat
  column : Nat
  deriving DecidableEq, Repr

def isAllowed (c : Char) : Bool :=
  let n := c.toNat
  n == 0x09 || n == 0x0A || n == 0x0D || (0x20 ≤ n && n ≤ 0x7E) || n == 0x85
    || (0xA0 ≤ n && n ≤ 0xFFFD) || 0x10000 ≤ n

/-- A text with a line feed for each line break that is not a separator of Unicode. -/
def uniformBreaks : List Char → List Char
  | '\r' :: '\n' :: cs => '\n' :: uniformBreaks cs
  | '\r' :: cs => '\n' :: uniformBreaks cs
  | '\u0085' :: cs => '\n' :: uniformBreaks cs
  | c :: cs => c :: uniformBreaks cs
  | [] => []

def isBreak (c : Char) : Bool := c == '\n' || c == '\u2028' || c == '\u2029'

def isBlank (c : Char) : Bool := c == ' ' || c == '\t'

/-- The character after the last one. -/
def isEnd (c : Char) : Bool := c == '\x00'

def isBreakOrEnd (c : Char) : Bool := isBreak c || isEnd c

/-- The byte order mark, which may stand at the front of a line. -/
def isByteOrderMark (c : Char) : Bool := c == '\uFEFF'

/-- What may stand after an indicator: a blank, a line break or the end. -/
def isGap (c : Char) : Bool := isBlank c || isBreakOrEnd c

/-- The characters from a place on, and the end after them. -/
def placedFrom (line column : Nat) : List Char → List Placed
  | [] => [⟨'\x00', line, column⟩]
  | c :: cs =>
    ⟨c, line, column⟩ ::
      if isBreak c then placedFrom (line + 1) 0 cs else placedFrom line (column + 1) cs

def placed (s : String) : Except Problem (List Placed) :=
  match s.toList.find? fun c => !isAllowed c with
  | some c => .error (.illegalCharacter c)
  | none => .ok (placedFrom 0 0 (uniformBreaks s.toList))

def firstChar : List Placed → Char
  | [] => '\x00'
  | p :: _ => p.char

/-- Whether a marker of three equal characters stands at the front of a line. -/
def isDocumentMarker (mark : Char) : List Placed → Bool
  | a :: b :: c :: rest =>
    a.column == 0 && a.char == mark && b.char == mark && c.char == mark && isGap (firstChar rest)
  | _ => false

/-- Whether a document starts or ends at the front. -/
def isDocumentEdge (ps : List Placed) : Bool := isDocumentMarker '-' ps || isDocumentMarker '.' ps

def skipBreak : List Placed → List Placed
  | p :: ps => if isBreak p.char then ps else p :: ps
  | [] => []

/-- The end of a line: blanks, and a comment after them, are passed over. -/
def lineEnd (ps : List Placed) : List Placed :=
  let rest := ps.dropWhile fun p => isBlank p.char
  if firstChar rest = '#' then rest.dropWhile fun p => !isBreakOrEnd p.char else rest

end RestService.Yaml
