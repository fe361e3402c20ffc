set_option autoImplicit false

namespace RestService.Yaml

/-- Why a text is no document. -/
inductive Problem
  /-- A character that no document may hold. -/
  | illegalCharacter (c : Char)
  /-- A character at which nothing can start. -/
  | illegalStart (c : Char)
  | illegalTab
  | illegalDirective
  | illegalTag
  | illegalAnchor
  | illegalEscape
  | illegalColon
  | illegalBlockHeader
  | unclosedQuote
  /-- A line that looks like a key has no colon. -/
  | missingColon
  /-- A sequence entry, a key or a value stands where none may start. -/
  | misplacedIndicator
  /-- The tokens do not form a node. -/
  | unexpectedToken
  | undefinedHandle
  | unknownAnchor (name : String)
  | secondDocument
  | tooDeep
  | tooManyAliases
  | duplicateKey
  /-- A whole number beyond 64 bits. -/
  | wideNumber (n : Int)
  /-- A scalar is not of the kind that its tag tells. -/
  | mismatchedTag (s : String)
  deriving DecidableEq, Repr

def Problem.message : Problem → String
  | illegalCharacter c => s!"illegal character '{c}'"
  | illegalStart c => s!"nothing can start with '{c}'"
  | illegalTab => "a tab stands for indentation"
  | illegalDirective => "illegal directive"
  | illegalTag => "illegal tag"
  | illegalAnchor => "illegal anchor or alias"
  | illegalEscape => "illegal escape in a quoted scalar"
  | illegalColon => "unexpected ':' in a plain scalar"
  | illegalBlockHeader => "illegal header of a block scalar"
  | unclosedQuote => "quoted scalar is not closed"
  | missingColon => "expected ':' after a key"
  | misplacedIndicator => "entry, key or value is not allowed here"
  | unexpectedToken => "unexpected token"
  | undefinedHandle => "undefined tag handle"
  | unknownAnchor name => s!"unknown anchor {name}"
  | secondDocument => "more than one document"
  | tooDeep => "nodes are nested too deep"
  | tooManyAliases => "aliases repeat too often"
  | duplicateKey => "duplicate key in a mapping"
  | wideNumber n => s!"{n} does not fit 64 bits"
  | mismatchedTag s => s!"{s} does not fit its tag"

end RestService.Yaml
