import RestService.Rule.Parser
import RestService.Text.Pieces

set_option autoImplicit false

namespace RestService

/-- A record that does not satisfy the rules. -/
inductive ValidationError
  | missing (field : String)
  | unknown (field : String)
  | conversion (field function reason : String)
  deriving DecidableEq, Repr

def ValidationError.message : ValidationError → String
  | missing field => s!"missing required input: {field}"
  | unknown field => s!"unknown input encountered: {field}"
  | conversion field function reason => s!"cannot apply `{function}` to {field}: {reason}"

abbrev Ruleset := List Rule

/-- A line that says nothing: a blank one or a comment. -/
def isIdleLine (line : String) : Bool :=
  match Text.trimChars line.toList with
  | [] => true
  | c :: _ => c == '#'

/-- The way in which rules are applied. -/
inductive Way
  | forward
  | backward
  deriving DecidableEq, Repr

namespace Rule

def goes (way : Way) (r : Rule) : Bool :=
  match way with
  | .forward => r.direction.includesForward
  | .backward => r.direction.includesBackward

def source (way : Way) (r : Rule) : RuleSide :=
  match way with
  | .forward => r.left
  | .backward => r.right

def target (way : Way) (r : Rule) : RuleSide :=
  match way with
  | .forward => r.right
  | .backward => r.left

end Rule

/-- What the conversions of a side make of a value that was read from it. -/
def RuleSide.convert (s : RuleSide) (v : Value) : Except ValidationError Value :=
  s.conversions.foldlM (fun v conversion =>
    match conversion.apply v with
    | .ok v => .ok v
    | .error failure => .error (.conversion s.field conversion.name failure.message)) v

namespace Ruleset

/-- What a ruleset lets pass that it would reject otherwise. -/
structure Leniency where
  ignoreUnknown : Bool := false
  ignoreMissing : Bool := false
  deriving DecidableEq, Repr

def valueAt (r : Resource) (field : String) : Option Value :=
  if field = typeKey then some (.text r.typeName) else Dict.get? r.fields field

/-- The record that the rules have written so far; it has no type name until a rule writes one. -/
structure Draft where
  typeName? : Option String := none
  fields : Fields := []

/-- The draft with a value written to the field of `target`, which was read from that of `source`.
-/
def Draft.write (d : Draft) (source target : String) (v : Value) : Except ValidationError Draft :=
  if target = typeKey then
    match v with
    | .text name => .ok { d with typeName? := some name }
    | other =>
      .error (.conversion source typeKey s!"type must be a string, got {other.kind}")
  else .ok { d with fields := Dict.insert d.fields target v }

def step (way : Way) (leniency : Leniency) (r : Resource) (d : Draft) (rule : Rule) :
    Except ValidationError Draft :=
  let source := rule.source way
  if rule.goes way then
    match valueAt r source.field with
    | none =>
      if rule.mandatory && !leniency.ignoreMissing then .error (.missing source.field) else .ok d
    | some v =>
      match source.convert v with
      | .error error => .error error
      | .ok v => d.write source.field (rule.target way).field v
  else .ok d

/-- Whether a rule, of whatever direction, names the field on the side that is read. -/
def knows (rules : Ruleset) (way : Way) (field : String) : Bool :=
  rules.any fun rule => (rule.source way).field == field

def apply (rules : Ruleset) (way : Way) (leniency : Leniency) (r : Resource) :
    Except ValidationError Resource :=
  match rules.foldlM (step way leniency r) ({} : Draft) with
  | .error error => .error error
  | .ok draft =>
    match if leniency.ignoreUnknown then none
      else (Dict.keys r.fields).find? fun key => !rules.knows way key with
    | some key => .error (.unknown key)
    | none => .ok ⟨draft.typeName?.getD r.typeName, draft.fields⟩

/-- From external names to internal ones. -/
def process (rules : Ruleset) (r : Resource) : Except ValidationError Resource :=
  rules.apply .forward {} r

/-- From internal names to external ones. -/
def processReverse (rules : Ruleset) (r : Resource) : Except ValidationError Resource :=
  rules.apply .backward {} r

/-- The type name that the rules give to a record of type `external`. -/
def probeType (rules : Ruleset) (external : String) : String :=
  match rules.apply .forward ⟨true, true⟩ ⟨external, []⟩ with
  | .ok r => r.typeName
  | .error _ => external

/-- The rules of a source text, one on each line that is neither blank nor a comment. -/
def parse (source : String) : Except SourceError Ruleset :=
  ((Text.numbered (Text.lines source)).filter fun line => !isIdleLine line.2).mapM
    fun line => Rule.parse line.2 line.1

end Ruleset

end RestService
