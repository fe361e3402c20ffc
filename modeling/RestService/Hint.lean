import RestService.SourceError
import RestService.Text.Blank
import RestService.Text.Case
import RestService.Text.Pieces
import RestService.Rule.Ruleset

/- Hints: what a body cannot say about its own nodes. A table has one hint on a line, such as

```text
reviews: sequence, type=review
/book/*/note: type=note
```

A pattern that starts with a slash must match the whole path of a node, any other one an end of the
path that starts at a segment. A star stands for one or more characters other than slashes. The
first matching line counts. -/

set_option autoImplicit false

namespace RestService

/-- What is said about a node. -/
structure Hint where
  /-- The type of a mapping that names none. -/
  typeName? : Option String := none
  /-- The children form a list even if no two have the same name. -/
  sequence : Bool := false
  deriving DecidableEq, Repr

/-- A pattern of paths. -/
structure HintEntry where
  pattern : String
  hint : Hint
  deriving DecidableEq, Repr

/-- The hints of a collection, in their order. -/
abbrev Hints := List HintEntry

namespace Hint

/-- What can be wrong with a hint. -/
inductive Problem
  | missingColon
  | missingPath
  | secondColon
  | typeWithoutValue
  | illegalSequence (flag : String)
  | unknown (key : String)
  deriving DecidableEq, Repr

def Problem.message : Problem → String
  | missingColon => "expecting 'path: directives'"
  | missingPath => "missing path"
  | secondColon => "more than one ':'"
  | typeWithoutValue => "'type' requires a value"
  | illegalSequence flag => s!"illegal value for 'sequence': {flag}"
  | unknown key => s!"unknown hint '{key}'"

/-- The words for the two truth values, in lower case. -/
def flag? (s : String) : Option Bool :=
  if s ∈ ["true", "yes", "1"] then some true
  else if s ∈ ["false", "no", "0"] then some false
  else none

/-- The hint with what `key`, or `key=value`, says. -/
def add (h : Hint) (key : String) (value? : Option String) : Except Problem Hint :=
  if key = "type" then
    match value? with
    | some name =>
      if name = "" then .error .typeWithoutValue else .ok { h with typeName? := some name }
    | none => .error .typeWithoutValue
  else if key = "sequence" then
    match value? with
    | none => .ok { h with sequence := true }
    | some value =>
      let word := Text.lowerAscii value
      match flag? word with
      | some flag => .ok { h with sequence := flag }
      | none => .error (.illegalSequence word)
  else .error (.unknown key)

/-- The hint with one directive more; an empty one says nothing. -/
def addDirective (h : Hint) (directive : String) : Except Problem Hint :=
  let directive := Text.trim directive
  if directive = "" then .ok h
  else match Text.splitOnce '=' directive with
    | some (key, value) => h.add (Text.trim key) (some (Text.trim value))
    | none => h.add directive none

def readEntry (line : String) : Except Problem HintEntry :=
  match Text.splitOnce ':' line with
  | none => .error .missingColon
  | some (pattern, directives) =>
    let pattern := Text.trim pattern
    if pattern = "" ∨ pattern = "/" then .error .missingPath
    else if directives.toList.contains ':' then .error .secondColon
    else match (Text.split ',' directives).foldlM addDirective {} with
      | .ok hint => .ok ⟨pattern, hint⟩
      | .error problem => .error problem

end Hint

namespace HintEntry

/-- What may remain of a pattern when its front has taken in the character `c`. -/
def remaining (c : Char) : List Char → List (List Char)
  | [] => []
  | '*' :: pattern => if c = '/' then [] else ['*' :: pattern, pattern]
  | p :: pattern => if p = c then [pattern] else []

/-- What may remain of any of `patterns` when `c` has been taken in. A pattern of `fresh` starts
after each slash. -/
def advance (fresh : List (List Char)) (patterns : List (List Char)) (c : Char) :
    List (List Char) :=
  let rest := (patterns.flatMap (remaining c)).eraseDups
  if c = '/' then fresh ++ rest else rest

def covers (e : HintEntry) (path : String) : Bool :=
  let pattern := e.pattern.toList
  let fresh := if pattern.head? = some '/' then [] else [pattern]
  (path.toList.foldl (advance fresh) [pattern]).contains []

end HintEntry

namespace Hints

def get? (hints : Hints) (path : String) : Option Hint :=
  (hints.find? fun entry => entry.covers path).map HintEntry.hint

/-- The type that is given to mappings at a path. -/
def typeAt? (hints : Hints) (path : String) : Option String :=
  (hints.get? path).bind Hint.typeName?

def isSequence (hints : Hints) (path : String) : Bool :=
  ((hints.get? path).map Hint.sequence).getD false

def patterns (hints : Hints) : List String := hints.map HintEntry.pattern

/-- The hints of a source text, one on each line that is neither blank nor a comment. -/
def parse (source : String) : Except SourceError Hints :=
  ((Text.numbered (Text.lines source)).filter fun line => !isIdleLine line.2).mapM fun line =>
    match Hint.readEntry (Text.trim line.2) with
    | .ok entry => .ok entry
    | .error problem => .error (.hint line.1 problem.message)

end Hints

end RestService
