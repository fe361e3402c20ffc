import RestService.Decimal.Integer
import RestService.Yaml.Source

set_option autoImplicit false

namespace RestService.Yaml

/-- The blanks and line breaks between two visible characters of a scalar. -/
structure Gap where
  /-- The blanks ahead of any line break. -/
  blanks : List Char := []
  breaks : List Char := []
  /-- The first line break was escaped and says nothing. -/
  escaped : Bool := false
  deriving DecidableEq, Repr

namespace Gap

def hasBreak (g : Gap) : Bool := g.escaped || !g.breaks.isEmpty

def isNone (g : Gap) : Bool := !g.hasBreak && g.blanks.isEmpty

/-- The gap with one more blank; blanks at the front of a line do not count. -/
def addBlank (g : Gap) (c : Char) : Gap :=
  if g.hasBreak then g else { g with blanks := g.blanks ++ [c] }

/-- The gap with one more line break. -/
def addBreak (g : Gap) (c : Char) : Gap := { g with blanks := [], breaks := g.breaks ++ [c] }

def folded (g : Gap) : List Char :=
  if g.escaped then g.breaks
  else match g.breaks with
    | [] => g.blanks
    | ['\n'] => [' ']
    | '\n' :: breaks => breaks
    | breaks => breaks

end Gap

/-- The characters that end a plain scalar inside brackets. -/
def isFlowIndicator (c : Char) : Bool :=
  c == ',' || c == '[' || c == ']' || c == '{' || c == '}'

/-- Whether a plain scalar ends before the visible character at the front, which follows a gap. -/
def endsPlain (flow : Bool) (indent : Int) (gap : Gap) (p : Placed) (ps : List Placed) : Bool :=
  isEnd p.char
    || (!gap.isNone
      && ((!flow && p.column < indent) || isDocumentEdge (p :: ps) || p.char == '#'))
    || (p.char == ':' && isGap (firstChar ps))
    || (flow && isFlowIndicator p.char)

/-- The rest of a plain scalar after a gap. Lines that continue it are indented by `indent`. The
flag tells that a line break came after the last visible character. -/
def plainFrom (flow : Bool) (indent : Int) (gap : Gap) :
    List Placed → Except Problem (List Char × Bool × List Placed)
  | [] => .ok ([], gap.hasBreak, [])
  | p :: ps =>
    if isBlank p.char then
      if gap.hasBreak && p.char == '\t' && p.column < indent then .error .illegalTab
      else plainFrom flow indent (gap.addBlank p.char) ps
    else if isBreak p.char then plainFrom flow indent (gap.addBreak p.char) ps
    else if endsPlain flow indent gap p ps then .ok ([], gap.hasBreak, p :: ps)
    else if flow && p.char == ':' && (isFlowIndicator (firstChar ps) || firstChar ps == '?') then
      .error .illegalColon
    else
      (plainFrom flow indent {} ps).map fun (text, broken, rest) =>
        (gap.folded ++ p.char :: text, broken, rest)

/-- The rest of a scalar in single quotes after a gap. A quote is written twice. -/
def singleQuotedFrom (gap : Gap) : List Placed → Except Problem (List Char × List Placed)
  | [] => .error .unclosedQuote
  | p :: ps =>
    if isBlank p.char then singleQuotedFrom (gap.addBlank p.char) ps
    else if isBreak p.char then singleQuotedFrom (gap.addBreak p.char) ps
    else if isEnd p.char || isDocumentEdge (p :: ps) then .error .unclosedQuote
    else if p.char == '\'' then
      match ps with
      | q :: qs =>
        if q.char == '\'' then
          (singleQuotedFrom {} qs).map fun (text, rest) => (gap.folded ++ '\'' :: text, rest)
        else .ok (gap.folded, q :: qs)
      | [] => .ok (gap.folded, [])
    else (singleQuotedFrom {} ps).map fun (text, rest) => (gap.folded ++ p.char :: text, rest)

def shortEscape? : Char → Option Char
  | '0' => some '\x00'
  | 'a' => some '\x07'
  | 'b' => some '\x08'
  | 't' | '\t' => some '\t'
  | 'n' => some '\n'
  | 'v' => some '\x0b'
  | 'f' => some '\x0c'
  | 'r' => some '\r'
  | 'e' => some '\x1b'
  | ' ' => some ' '
  | '"' => some '"'
  | '/' => some '/'
  | '\\' => some '\\'
  | 'N' => some '\u0085'
  | '_' => some '\u00a0'
  | 'L' => some '\u2028'
  | 'P' => some '\u2029'
  | _ => none

/-- The number of hexadecimal digits after the letter of a long escape. -/
def escapeWidth? : Char → Option Nat
  | 'x' => some 2
  | 'u' => some 4
  | 'U' => some 8
  | _ => none

/-- The character of a number, if it is one. -/
def charOfNumber? (n : Nat) : Option Char := if n.isValidChar then some (Char.ofNat n) else none

/-- Where a scalar in double quotes stands: after a gap, or inside a long escape with some digits to
go. -/
inductive QuotedState
  | gap (g : Gap)
  | digits (left value : Nat)

/-- The rest of a scalar in double quotes. -/
def doubleQuotedFrom : QuotedState → List Placed → Except Problem (List Char × List Placed)
  | _, [] => .error .unclosedQuote
  | .digits left value, p :: ps =>
    match Decimal.digit? 16 p.char with
    | none => .error .illegalEscape
    | some d =>
      let value := value * 16 + d
      if 1 < left then doubleQuotedFrom (.digits (left - 1) value) ps
      else match charOfNumber? value with
        | some c => (doubleQuotedFrom (.gap {}) ps).map fun (text, rest) => (c :: text, rest)
        | none => .error .illegalEscape
  | .gap gap, p :: ps =>
    if isBlank p.char then doubleQuotedFrom (.gap (gap.addBlank p.char)) ps
    else if isBreak p.char then doubleQuotedFrom (.gap (gap.addBreak p.char)) ps
    else if isEnd p.char || isDocumentEdge (p :: ps) then .error .unclosedQuote
    else if p.char == '"' then .ok (gap.folded, ps)
    else if p.char == '\\' then
      match ps with
      | [] => .error .unclosedQuote
      | q :: qs =>
        if isBreak q.char then
          (doubleQuotedFrom (.gap { escaped := true }) qs).map fun (text, rest) =>
            (gap.folded ++ text, rest)
        else match shortEscape? q.char, escapeWidth? q.char with
          | some c, _ =>
            (doubleQuotedFrom (.gap {}) qs).map fun (text, rest) => (gap.folded ++ c :: text, rest)
          | none, some width =>
            (doubleQuotedFrom (.digits width 0) qs).map fun (text, rest) =>
              (gap.folded ++ text, rest)
          | none, none => .error .illegalEscape
    else
      (doubleQuotedFrom (.gap {}) ps).map fun (text, rest) => (gap.folded ++ p.char :: text, rest)

/-- What becomes of the line breaks at the end of a block of lines. -/
inductive Chomping
  | strip
  | clip
  | keep
  deriving DecidableEq, Repr

/-- The header of a block: its chomping, and by how much its lines are indented if it says so. -/
structure BlockHeader where
  chomping : Chomping := .clip
  increment? : Option Nat := none
  deriving DecidableEq, Repr

/-- The chomping that a sign tells. -/
def chomping? : Char → Option Chomping
  | '+' => some .keep
  | '-' => some .strip
  | _ => none

/-- The header of a block, whose signs come in either order, and the lines after it. -/
def readBlockHeader (ps : List Placed) : Except Problem (BlockHeader × List Placed) := do
  let digit? (c : Char) : Option Nat := Decimal.digit? 10 c
  let (header, rest) := match ps with
    | p :: q :: rest =>
      match chomping? p.char, digit? p.char with
      | some chomping, _ =>
        match digit? q.char with
        | some n => ((⟨chomping, some n⟩ : BlockHeader), rest)
        | none => (⟨chomping, none⟩, q :: rest)
      | none, some n =>
        match chomping? q.char with
        | some chomping => (⟨chomping, some n⟩, rest)
        | none => (⟨.clip, some n⟩, q :: rest)
      | none, none => ({}, ps)
    | _ => ({}, ps)
  if header.increment? = some 0 then throw .illegalBlockHeader
  let rest := lineEnd rest
  if isBreakOrEnd (firstChar rest) then return (header, skipBreak rest)
  else throw .illegalBlockHeader

/-- A block of lines of which some have been read. -/
structure BlockState where
  /-- The indentation, zero as long as it is not known. -/
  indent : Nat
  /-- The widest front of a line that has been met with. -/
  widest : Nat := 0
  inLine : Bool := false
  /-- The break after the last line. -/
  lastBreak : List Char := []
  /-- The breaks of the empty lines after it. -/
  emptyLines : List Char := []
  /-- The last line started with a blank. -/
  startedBlank : Bool := false

/-- The line break, or what it is folded to, between the last line and one that starts with `c`. -/
def BlockState.joined (b : BlockState) (folds : Bool) (c : Char) : List Char :=
  if folds && b.lastBreak == ['\n'] && !b.startedBlank && !isBlank c then
    (if b.emptyLines.isEmpty then [' '] else []) ++ b.emptyLines
  else b.lastBreak ++ b.emptyLines

/-- What the breaks at the end of the block stand for. -/
def BlockState.ending (b : BlockState) : Chomping → List Char
  | .strip => []
  | .clip => b.lastBreak
  | .keep => b.lastBreak ++ b.emptyLines

/-- The rest of a block of lines. An indentation that is not known is that of the first line that is
not empty, but at least `least`. -/
def blockFrom (folds : Bool) (chomping : Chomping) (least : Nat) (b : BlockState) :
    List Placed → Except Problem (List Char × List Placed)
  | [] => .ok (b.ending chomping, [])
  | p :: ps =>
    if b.inLine then
      if isBreak p.char then
        blockFrom folds chomping least { b with inLine := false, lastBreak := [p.char] } ps
      else if isEnd p.char then .ok ([], p :: ps)
      else (blockFrom folds chomping least b ps).map fun (text, rest) => (p.char :: text, rest)
    else
      let inMargin : Bool := b.indent == 0 || p.column < b.indent
      if inMargin && p.char == ' ' then blockFrom folds chomping least b ps
      else if inMargin && p.char == '\t' then .error .illegalTab
      else
        let widest := max b.widest p.column
        if isBreak p.char then
          blockFrom folds chomping least
            { b with widest, emptyLines := b.emptyLines ++ [p.char] } ps
        else
          let indent := if b.indent = 0 then max widest least else b.indent
          if p.column = indent ∧ !isEnd p.char then
            let line : BlockState := { indent, inLine := true, startedBlank := isBlank p.char }
            (blockFrom folds chomping least line ps).map fun (text, rest) =>
              (b.joined folds p.char ++ p.char :: text, rest)
          else .ok (b.ending chomping, p :: ps)

def readBlock (folds : Bool) (indent : Int) (ps : List Placed) :
    Except Problem (String × List Placed) := do
  let (header, rest) ← readBlockHeader ps
  let known := match header.increment? with
    | some n => indent.toNat + n
    | none => 0
  let least := max 1 (indent + 1).toNat
  let (text, rest) ← blockFrom folds header.chomping least { indent := known } rest
  return (String.ofList text, rest)

end RestService.Yaml
