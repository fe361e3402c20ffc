import RestService.Rule.Basic
import RestService.Rule.Token
import RestService.SourceError

/- Reading of rules.

```text
rule      := side direction side mandatory?
side      := name | name '(' side ')'
direction := '<=>' | '<=' | '=>'
mandatory := '*'
```
-/

set_option autoImplicit false

namespace RestService.Rule

/-- What can be wrong with a rule. Where a token is missing, nothing was found. -/
inductive Problem
  | illegal (c : Char)
  | expectingName (found : Option TokenKind)
  | expectingDirection (found : Option TokenKind)
  | expectingClosing (found : TokenKind)
  | unclosed
  | unknownConversion (name : String)
  | unexpected (found : TokenKind)
  deriving DecidableEq, Repr

def Problem.found : Option TokenKind → String
  | none => ""
  | some kind => s!", found '{kind.text}'"

/-- The wording of a problem. -/
def Problem.message : Problem → String
  | illegal c => s!"illegal token '{c}'"
  | expectingName kind => "expecting field name" ++ Problem.found kind
  | expectingDirection kind => "expecting '<=>', '<=' or '=>'" ++ Problem.found kind
  | expectingClosing kind => "expecting ')'" ++ Problem.found (some kind)
  | unclosed => "unmatched '('"
  | unknownConversion name => s!"unknown transform function '{name}'"
  | unexpected kind => s!"unexpected '{kind.text}'"

abbrev ParseError := Option Nat × Problem

def readSide : List Token → Except ParseError (RuleSide × List Token)
  | ⟨.name outer, column⟩ :: ⟨.opening, _⟩ :: tokens =>
    match Conversion.ofName? outer with
    | none => .error (some column, .unknownConversion outer)
    | some conversion =>
      match readSide tokens with
      | .error error => .error error
      | .ok (inner, ⟨.closing, _⟩ :: rest) =>
        .ok (⟨inner.field, inner.conversions ++ [conversion]⟩, rest)
      | .ok (_, ⟨kind, column⟩ :: _) => .error (some column, .expectingClosing kind)
      | .ok (_, []) => .error (none, .unclosed)
  | ⟨.name field, _⟩ :: tokens => .ok (⟨field, []⟩, tokens)
  | ⟨kind, column⟩ :: _ => .error (some column, .expectingName (some kind))
  | [] => .error (none, .expectingName none)

def readDirection : List Token → Except ParseError (Direction × List Token)
  | ⟨.both, _⟩ :: tokens => .ok (.both, tokens)
  | ⟨.backward, _⟩ :: tokens => .ok (.backward, tokens)
  | ⟨.forward, _⟩ :: tokens => .ok (.forward, tokens)
  | ⟨kind, column⟩ :: _ => .error (some column, .expectingDirection (some kind))
  | [] => .error (none, .expectingDirection none)

/-- Whether a rule ends as a mandatory one. -/
def readMandatory : List Token → Except ParseError Bool
  | [] => .ok false
  | [⟨.mandatory, _⟩] => .ok true
  | ⟨.mandatory, _⟩ :: ⟨kind, column⟩ :: _ => .error (some column, .unexpected kind)
  | ⟨kind, column⟩ :: _ => .error (some column, .unexpected kind)

/-- The rule that the tokens form. -/
def ofTokens (tokens : List Token) : Except ParseError Rule := do
  let (left, tokens) ← readSide tokens
  let (direction, tokens) ← readDirection tokens
  let (right, tokens) ← readSide tokens
  let mandatory ← readMandatory tokens
  return ⟨left, direction, right, mandatory⟩

def endColumn (source : String) : Nat := source.length + 1

/-- The rule on a line, or the column and the problem that stand in its way. -/
def read (source : String) : Except (Nat × Problem) Rule :=
  match tokens source with
  | .error illegal => .error (illegal.column, .illegal illegal.char)
  | .ok tokens =>
    match ofTokens tokens with
    | .error (column, problem) => .error (column.getD (endColumn source), problem)
    | .ok rule => .ok rule

def IllegalCharacter.toSourceError (line : Nat) (illegal : IllegalCharacter) : SourceError :=
  .rule line illegal.column (Problem.illegal illegal.char).message

def parse (source : String) (line : Nat) : Except SourceError Rule :=
  match read source with
  | .ok rule => .ok rule
  | .error (column, problem) => .error (.rule line column problem.message)

end RestService.Rule
