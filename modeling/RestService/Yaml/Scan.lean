import RestService.Yaml.Scalar
import RestService.Yaml.Token

set_option autoImplicit false

namespace RestService.Yaml

/-- A place where a key may have started. -/
structure SimpleKey where
  /-- The line is nothing else but a key. -/
  required : Bool
  /-- The number of tokens before it. -/
  position : Nat
  line : Nat
  column : Nat
  deriving DecidableEq, Repr

/-- The state between two tokens. -/
structure Scan where
  /-- The tokens read, last one first. -/
  tokens : List Token := []
  /-- A key that may have started, outside of all brackets that are open inside of it. -/
  key? : Option SimpleKey := none
  /-- The same for each bracket that is open, innermost first. -/
  outerKeys : List (Option SimpleKey) := []
  /-- A key may start at the next token. -/
  keyAllowed : Bool := true
  /-- The indentation of the innermost block, `-1` if there is none. -/
  indent : Int := -1
  /-- The indentations of the blocks around it. -/
  outerIndents : List Int := []

namespace Scan

/-- Inside brackets indentation does not count. -/
def inFlow (s : Scan) : Bool := !s.outerKeys.isEmpty

def push (s : Scan) (token : Token) : Scan := { s with tokens := token :: s.tokens }

def insert (s : Scan) (position : Nat) (token : Token) : Scan :=
  let later := s.tokens.length - position
  { s with tokens := s.tokens.take later ++ token :: s.tokens.drop later }

/-- Whether a key can no longer be one at a place. -/
def isStale (key : SimpleKey) (p : Placed) : Bool :=
  key.line < p.line || key.column + 1024 < p.column

/-- A key that may still be one, unless it has to be. -/
def freshKey (p : Placed) : Option SimpleKey → Except Problem (Option SimpleKey)
  | none => .ok none
  | some key =>
    if !isStale key p then .ok (some key)
    else if key.required then .error .missingColon
    else .ok none

/-- The state without the keys that have become stale. -/
def dropStaleKeys (s : Scan) (p : Placed) : Except Problem Scan := do
  let key? ← freshKey p s.key?
  let outerKeys ← s.outerKeys.mapM (freshKey p)
  return { s with key?, outerKeys }

/-- The state without a key; one that has to be a key cannot be given up. -/
def dropKey (s : Scan) : Except Problem Scan :=
  match s.key? with
  | some ⟨true, _, _, _⟩ => .error .missingColon
  | _ => .ok { s with key? := none }

/-- The state that keeps in mind that a key may start here. -/
def saveKey (s : Scan) (p : Placed) : Except Problem Scan := do
  if s.keyAllowed then
    let required := !s.inFlow && s.indent == p.column
    let s ← s.dropKey
    return { s with key? := some ⟨required, s.tokens.length, p.line, p.column⟩ }
  else return s

/-- The state in a block that starts with a token behind the first `position` ones, if the column
lies deeper than the innermost block. -/
def openBlock (s : Scan) (column : Nat) (position : Nat) (token : Token) : Scan :=
  if !s.inFlow && s.indent < column then
    { s.insert position token with indent := column, outerIndents := s.indent :: s.outerIndents }
  else s

/-- The blocks left open, and the number of those closed, when something stands at a column. -/
def closing (column indent : Int) : List Int → Int × List Int × Nat
  | [] => (indent, [], 0)
  | outer :: rest =>
    if column < indent then
      let (indent, left, closed) := closing column outer rest
      (indent, left, closed + 1)
    else (indent, outer :: rest, 0)

/-- The state without the blocks that lie deeper than a column. -/
def closeBlocks (s : Scan) (column : Int) : Scan :=
  if s.inFlow then s
  else
    let (indent, outerIndents, closed) := closing column s.indent s.outerIndents
    { s with indent, outerIndents, tokens := List.replicate closed .blockEnd ++ s.tokens }

/-- What stands at the next token: blanks, comments, line breaks and a byte order mark at the front
of a line are passed over. Outside of brackets a new line may start with a key, and no tab may stand
where a key could start. -/
def skipGaps (s : Scan) : List Placed → Bool → Scan × List Placed
  | [], _ => (s, [])
  | p :: ps, inComment =>
    if isBreak p.char then
      skipGaps { s with keyAllowed := s.keyAllowed || !s.inFlow } ps false
    else if inComment && !isEnd p.char then skipGaps s ps true
    else if p.column == 0 && isByteOrderMark p.char then skipGaps s ps false
    else if p.char == ' ' || (p.char == '\t' && (s.inFlow || !s.keyAllowed)) then
      skipGaps s ps false
    else if p.char == '#' then skipGaps s ps true
    else (s, p :: ps)

/-- Outside of blocks and with no key in view. -/
def toMargin (s : Scan) : Except Problem Scan := do
  return { ← (s.closeBlocks (-1)).dropKey with keyAllowed := false }

def openFlow (s : Scan) (p : Placed) (token : Token) : Except Problem Scan := do
  let s ← s.saveKey p
  return { s with
    tokens := token :: s.tokens
    key? := none
    outerKeys := s.key? :: s.outerKeys
    keyAllowed := true }

def closeFlow (s : Scan) (token : Token) : Except Problem Scan := do
  let s ← s.dropKey
  let s := { s.push token with keyAllowed := false }
  match s.outerKeys with
  | key? :: outerKeys => return { s with key?, outerKeys }
  | [] => return s

def addFlowEntry (s : Scan) : Except Problem Scan := do
  return { (← s.dropKey).push .flowEntry with keyAllowed := true }

/-- Outside of brackets, the state in the block that an indicator starts. -/
def announce (s : Scan) (p : Placed) (block : Token) : Except Problem Scan :=
  if s.inFlow then .ok s
  else if s.keyAllowed then .ok (s.openBlock p.column s.tokens.length block)
  else .error .misplacedIndicator

/-- The state after the hyphen of an entry. -/
def addBlockEntry (s : Scan) (p : Placed) : Except Problem Scan := do
  let s ← (← s.announce p .blockSequenceStart).dropKey
  return { s.push .blockEntry with keyAllowed := true }

def addKey (s : Scan) (p : Placed) : Except Problem Scan := do
  let s ← (← s.announce p .blockMappingStart).dropKey
  return { s.push .key with keyAllowed := !s.inFlow }

def addValue (s : Scan) (p : Placed) : Except Problem Scan :=
  match s.key? with
  | some key =>
    let s := (s.insert key.position .key).openBlock key.column key.position .blockMappingStart
    .ok { s.push .value with key? := none, keyAllowed := false }
  | none => do
    let s ← s.announce p .blockMappingStart
    return { s.push .value with keyAllowed := !s.inFlow }

/-- The state after a token that may be a key, or the start of one. -/
def addNodePart (s : Scan) (p : Placed) (token : Token) : Except Problem Scan := do
  return { (← s.saveKey p).push token with keyAllowed := false }

/-- Whether a plain scalar starts with `p`. -/
def startsPlain (s : Scan) (p : Placed) (ps : List Placed) : Bool :=
  let next := firstChar ps
  !(isGap p.char || "-?:,[]{}#&*!|>'\"%@`".toList.contains p.char)
    || (p.char == '-' && !isBlank next)
    || (!s.inFlow && (p.char == '?' || p.char == ':') && !isGap next)

/-- The state after the token at the front, and what follows the token. -/
def readToken (s : Scan) (p : Placed) (ps : List Placed) : Except Problem (Scan × List Placed) := do
  let c := p.char
  let next := firstChar ps
  if p.column = 0 ∧ c = '%' then
    let s ← s.toMargin
    let (token, rest) ← readDirective ps
    return (s.push token, rest)
  else if isDocumentMarker '-' (p :: ps) then return ((← s.toMargin).push .documentStart, ps.drop 2)
  else if isDocumentMarker '.' (p :: ps) then return ((← s.toMargin).push .documentEnd, ps.drop 2)
  else if c = '[' then return (← s.openFlow p .flowSequenceStart, ps)
  else if c = '{' then return (← s.openFlow p .flowMappingStart, ps)
  else if c = ']' then return (← s.closeFlow .flowSequenceEnd, ps)
  else if c = '}' then return (← s.closeFlow .flowMappingEnd, ps)
  else if c = ',' then return (← s.addFlowEntry, ps)
  else if c = '-' ∧ isGap next then return (← s.addBlockEntry p, ps)
  else if c = '?' ∧ (s.inFlow || isGap next) then return (← s.addKey p, ps)
  else if c = ':' ∧ (s.inFlow || isGap next) then return (← s.addValue p, ps)
  else if c = '*' then
    let (name, rest) ← readAnchorName ps
    return (← s.addNodePart p (.alias name), rest)
  else if c = '&' then
    let (name, rest) ← readAnchorName ps
    return (← s.addNodePart p (.anchor name), rest)
  else if c = '!' then
    let (tag, rest) ← readTag s.inFlow ps
    return (← s.addNodePart p tag, rest)
  else if (c = '|' ∨ c = '>') ∧ !s.inFlow then
    let s ← s.dropKey
    let (text, rest) ← readBlock (c == '>') s.indent ps
    return ({ s.push (.scalar text false) with keyAllowed := true }, rest)
  else if c = '\'' then
    let (text, rest) ← singleQuotedFrom {} ps
    return (← s.addNodePart p (.scalar (String.ofList text) false), rest)
  else if c = '"' then
    let (text, rest) ← doubleQuotedFrom (.gap {}) ps
    return (← s.addNodePart p (.scalar (String.ofList text) false), rest)
  else if s.startsPlain p ps then
    let (text, broken, rest) ← plainFrom s.inFlow (s.indent + 1) {} (p :: ps)
    let s ← s.addNodePart p (.scalar (String.ofList text) true)
    return ({ s with keyAllowed := broken }, rest)
  else throw (.illegalStart c)

/-- The tokens up to the end of the text. Every token takes at least one character, and `bound`
counts those left. -/
def finish (s : Scan) : Nat → List Placed → Except Problem (List Token)
  | 0, _ => .error .unexpectedToken
  | bound + 1, ps => do
    let (s, rest) := s.skipGaps ps false
    match rest with
    | [] => return (← s.toMargin).tokens.reverse
    | p :: ps =>
      let s ← s.dropStaleKeys p
      let s := s.closeBlocks p.column
      if isEnd p.char then return (← s.toMargin).tokens.reverse
      let (s, rest) ← s.readToken p ps
      finish s bound rest

end Scan

def tokens (s : String) : Except Problem (List Token) := do
  let ps ← placed s
  Scan.finish {} (ps.length + 1) ps

end RestService.Yaml
