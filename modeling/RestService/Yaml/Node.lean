import RestService.Yaml.Scan

/- The nodes of a document, with their tags, anchors and aliases as they are written.

```text
node     := alias | properties? (scalar | sequence | mapping)
sequence := '-' node ... | '[' (node | single pair), ... ']'
mapping  := '?' node ':' node ... | '{' node (':' node)?, ... '}'
```

Where a node is missing, an empty plain scalar stands in for it. -/

set_option autoImplicit false

namespace RestService.Yaml

/-- A tag and an anchor, as far as a node has them. -/
structure Properties where
  tag? : Option (List UInt8) := none
  anchor? : Option String := none
  deriving DecidableEq, Repr

/-- A node. An alias tells its target by a value of type `α`. -/
inductive Node (α : Type)
  | alias (target : α)
  | scalar (properties : Properties) (text : String) (plain : Bool)
  | sequence (properties : Properties) (items : List (Node α))
  | mapping (properties : Properties) (entries : List (Node α × Node α))

/-- What stands in for a missing node. -/
def Node.missing {α : Type} (properties : Properties := {}) : Node α := .scalar properties "" true

/-- What the tag handles of a document stand for. -/
abbrev Handles := List (String × List UInt8)

def standardHandles : Handles :=
  [("!", asciiBytes "!"), ("!!", asciiBytes "tag:yaml.org,2002:")]

/-- The tag for a handle and a suffix. -/
def tagFor (handles : Handles) (handle : String) (suffix : List UInt8) :
    Except Problem (List UInt8) :=
  if handle = "" then .ok suffix
  else match handles.lookup handle with
    | some expansion => .ok (expansion ++ suffix)
    | none => .error .undefinedHandle

/-- The tag and the anchor at the front, in either order. -/
def readProperties (handles : Handles) : List Token → Except Problem (Properties × List Token)
  | .anchor name :: .tag handle suffix :: rest
  | .tag handle suffix :: .anchor name :: rest =>
    (tagFor handles handle suffix).map fun tag => (⟨some tag, some name⟩, rest)
  | .anchor name :: rest => .ok (⟨none, some name⟩, rest)
  | .tag handle suffix :: rest =>
    (tagFor handles handle suffix).map fun tag => (⟨some tag, none⟩, rest)
  | tokens => .ok ({}, tokens)

/-- Where a node stands: inside brackets, in a block, or in a block mapping, whose sequences need no
indentation of their own. -/
inductive Position
  | flow
  | block
  | blockEntry
  deriving DecidableEq, Repr

/-- Whether the token ends an entry of a block sequence. -/
def endsItem : Option Token → Bool
  | some .blockEntry | some .blockEnd => true
  | _ => false

/-- Whether the token ends an entry of a block sequence that is not indented. -/
def endsLooseItem : Option Token → Bool
  | some .blockEntry | some .key | some .value | some .blockEnd => true
  | _ => false

/-- Whether the token ends a key or a value of a block mapping. -/
def endsEntryPart : Option Token → Bool
  | some .key | some .value | some .blockEnd => true
  | _ => false

/-- Whether the token ends a value between brackets that `closing` ends. -/
def endsFlowValue (closing : Token) : Option Token → Bool
  | some token => token == .flowEntry || token == closing
  | none => false

mutual

/-- The node at the front. Every step inside a node takes a token at least every second time, and
`bound` counts steps. -/
def readNode (handles : Handles) :
    Nat → Position → List Token → Except Problem (Node String × List Token)
  | 0, _, _ => .error .unexpectedToken
  | _ + 1, _, .alias name :: rest => .ok (.alias name, rest)
  | bound + 1, position, tokens => do
    let (properties, tokens) ← readProperties handles tokens
    match position, tokens with
    | .blockEntry, .blockEntry :: _ =>
      let (items, rest) ← readLooseItems handles bound tokens
      return (.sequence properties items, rest)
    | _, .scalar text plain :: rest => return (.scalar properties text plain, rest)
    | _, .flowSequenceStart :: rest =>
      let (items, rest) ← readFlowItems handles bound true rest
      return (.sequence properties items, rest)
    | _, .flowMappingStart :: rest =>
      let (entries, rest) ← readFlowEntries handles bound true rest
      return (.mapping properties entries, rest)
    | .block, .blockSequenceStart :: rest | .blockEntry, .blockSequenceStart :: rest =>
      let (items, rest) ← readItems handles bound rest
      return (.sequence properties items, rest)
    | .block, .blockMappingStart :: rest | .blockEntry, .blockMappingStart :: rest =>
      let (entries, rest) ← readEntries handles bound rest
      return (.mapping properties entries, rest)
    | _, _ =>
      if properties = {} then throw .unexpectedToken else return (.missing properties, tokens)

/-- The node at the front, or its stand-in before a token that ends it. -/
def readOptional (handles : Handles) (ends : Option Token → Bool) :
    Nat → Position → List Token → Except Problem (Node String × List Token)
  | 0, _, _ => .error .unexpectedToken
  | bound + 1, position, tokens =>
    if ends tokens.head? then .ok (.missing, tokens) else readNode handles bound position tokens

/-- The items of a block sequence up to its end. -/
def readItems (handles : Handles) :
    Nat → List Token → Except Problem (List (Node String) × List Token)
  | bound + 1, .blockEntry :: rest => do
    let (item, rest) ← readOptional handles endsItem bound .block rest
    let (items, rest) ← readItems handles bound rest
    return (item :: items, rest)
  | _ + 1, .blockEnd :: rest => .ok ([], rest)
  | _, _ => .error .unexpectedToken

/-- The items of a block sequence that is not indented. -/
def readLooseItems (handles : Handles) :
    Nat → List Token → Except Problem (List (Node String) × List Token)
  | 0, _ => .error .unexpectedToken
  | bound + 1, .blockEntry :: rest => do
    let (item, rest) ← readOptional handles endsLooseItem bound .block rest
    let (items, rest) ← readLooseItems handles bound rest
    return (item :: items, rest)
  | _ + 1, tokens => .ok ([], tokens)

/-- The entries of a block mapping up to its end. -/
def readEntries (handles : Handles) :
    Nat → List Token → Except Problem (List (Node String × Node String) × List Token)
  | bound + 1, .key :: rest => do
    let (key, rest) ← readOptional handles endsEntryPart bound .blockEntry rest
    let (value, rest) ← readValue handles bound rest
    let (entries, rest) ← readEntries handles bound rest
    return ((key, value) :: entries, rest)
  | _ + 1, .blockEnd :: rest => .ok ([], rest)
  | _, _ => .error .unexpectedToken

/-- The value of an entry of a block mapping, if there is one. -/
def readValue (handles : Handles) : Nat → List Token → Except Problem (Node String × List Token)
  | bound + 1, .value :: rest => readOptional handles endsEntryPart bound .blockEntry rest
  | _, tokens => .ok (.missing, tokens)

/-- The value of an entry between brackets that `closing` ends, if there is one. -/
def readFlowValue (handles : Handles) (closing : Token) :
    Nat → List Token → Except Problem (Node String × List Token)
  | bound + 1, .value :: rest => readOptional handles (endsFlowValue closing) bound .flow rest
  | _, tokens => .ok (.missing, tokens)

/-- The items between brackets up to the closing one; after the first, a comma comes ahead of each.
An entry of a mapping may stand for the mapping of this one entry; if its key is missing, the token
in its place is passed over. -/
def readFlowItems (handles : Handles) :
    Nat → Bool → List Token → Except Problem (List (Node String) × List Token)
  | 0, _, _ => .error .unexpectedToken
  | bound + 1, first, tokens =>
    match first, tokens with
    | _, .flowSequenceEnd :: rest => .ok ([], rest)
    | false, .flowEntry :: rest => readFlowItem handles bound rest
    | false, _ => .error .unexpectedToken
    | true, tokens => readFlowItem handles bound tokens

/-- The items between brackets, of which the next one follows at once, if any. -/
def readFlowItem (handles : Handles) :
    Nat → List Token → Except Problem (List (Node String) × List Token)
  | 0, _ => .error .unexpectedToken
  | _ + 1, .flowSequenceEnd :: rest => .ok ([], rest)
  | bound + 1, .key :: rest => do
    let (key, rest) ←
      match rest with
      | .value :: after | .flowEntry :: after | .flowSequenceEnd :: after =>
        pure (.missing, after)
      | _ => readNode handles bound .flow rest
    let (value, rest) ← readFlowValue handles .flowSequenceEnd bound rest
    let (items, rest) ← readFlowItems handles bound false rest
    return (.mapping {} [(key, value)] :: items, rest)
  | bound + 1, tokens => do
    let (item, rest) ← readNode handles bound .flow tokens
    let (items, rest) ← readFlowItems handles bound false rest
    return (item :: items, rest)

/-- The entries between braces up to the closing one; after the first, a comma comes ahead of each.
-/
def readFlowEntries (handles : Handles) :
    Nat → Bool → List Token → Except Problem (List (Node String × Node String) × List Token)
  | 0, _, _ => .error .unexpectedToken
  | bound + 1, first, tokens =>
    match first, tokens with
    | _, .flowMappingEnd :: rest => .ok ([], rest)
    | false, .flowEntry :: rest => readFlowEntry handles bound rest
    | false, _ => .error .unexpectedToken
    | true, tokens => readFlowEntry handles bound tokens

/-- The entries between braces, of which the next one follows at once, if any. -/
def readFlowEntry (handles : Handles) :
    Nat → List Token → Except Problem (List (Node String × Node String) × List Token)
  | 0, _ => .error .unexpectedToken
  | _ + 1, .flowMappingEnd :: rest => .ok ([], rest)
  | bound + 1, .key :: rest => do
    let ends (token? : Option Token) : Bool :=
      token? == some .value || endsFlowValue .flowMappingEnd token?
    let (key, rest) ← readOptional handles ends bound .flow rest
    let (value, rest) ← readFlowValue handles .flowMappingEnd bound rest
    let (entries, rest) ← readFlowEntries handles bound false rest
    return ((key, value) :: entries, rest)
  | bound + 1, tokens => do
    let (key, rest) ← readNode handles bound .flow tokens
    let (entries, rest) ← readFlowEntries handles bound false rest
    return ((key, .missing) :: entries, rest)

end

/-- The handles that the directives at the front declare, and the tokens after them. There is at
most one version, of YAML 1.1 or 1.2, and one declaration for a handle. -/
def readDirectives (versioned : Bool) (declared : Handles) :
    List Token → Except Problem (Handles × List Token)
  | .version major minor :: rest =>
    if !versioned && major == 1 && (minor == 1 || minor == 2) then readDirectives true declared rest
    else .error .illegalDirective
  | .tagHandle handle expansion :: rest =>
    if (declared.lookup handle).isSome then .error .illegalDirective
    else readDirectives versioned (declared ++ [(handle, expansion)]) rest
  | tokens => .ok (declared, tokens)

/-- Whether nothing of a document is left at the front. -/
def endsDocument : Option Token → Bool
  | none | some (.version _ _) | some (.tagHandle _ _) => true
  | some .documentStart | some .documentEnd => true
  | _ => false

/-- How many steps reading the tokens can take. -/
def stepBound (tokens : List Token) : Nat := 4 * tokens.length + 8

/-- The document at the front, none if there are no tokens. -/
def readDocument (tokens : List Token) : Except Problem (Option (Node String) × List Token) :=
  match tokens with
  | [] => .ok (none, [])
  | .version _ _ :: _ | .tagHandle _ _ :: _ | .documentStart :: _ => do
    let (declared, rest) ← readDirectives false [] tokens
    match rest with
    | .documentStart :: rest =>
      let handles := declared ++ standardHandles
      let (node, rest) ←
        if endsDocument rest.head? then pure (.missing, rest)
        else readNode handles (stepBound rest) .block rest
      return (some node, rest)
    | _ => throw .unexpectedToken
  | _ => do
    let (node, rest) ← readNode standardHandles (stepBound tokens) .block tokens
    return (some node, rest)

/-- The node that the only document of a text consists of, none if the text holds no document. -/
def readText (s : String) : Except Problem (Option (Node String)) := do
  let (node?, rest) ← readDocument (← tokens s)
  if rest.all (· == .documentEnd) then return node? else throw .secondDocument

end RestService.Yaml
