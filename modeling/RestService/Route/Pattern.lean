import RestService.Dict
import RestService.Text.Pieces

set_option autoImplicit false

namespace RestService

namespace PathPattern

/-- One segment of a pattern. -/
inductive Segment
  | literal (s : String)
  | variable (name : String)
  deriving DecidableEq, Repr

/-- What can be wrong with a pattern. -/
inductive Problem
  | notAbsolute (pattern : String)
  | emptyVariable (pattern : String)
  | duplicateVariable (name pattern : String)
  deriving DecidableEq, Repr

def Problem.message : Problem → String
  | notAbsolute pattern => s!"route pattern must start with '/': {pattern}"
  | emptyVariable pattern => s!"empty variable name in route pattern: {pattern}"
  | duplicateVariable name pattern =>
    s!"variable '{name}' appears twice in route pattern: {pattern}"

def split (path : String) : List String := (Text.split '/' path).filter (· != "")

/-- The name that a segment gives to a variable, as `:name` or in braces. -/
def variableName? (part : String) : Option String :=
  match part.toList with
  | ':' :: name => some (String.ofList name)
  | '{' :: rest =>
    match rest.reverse with
    | '}' :: name => some (String.ofList name.reverse)
    | _ => none
  | _ => none

def segmentsAfter (pattern : String) (before : List Segment) :
    List String → Except Problem (List Segment)
  | [] => .ok before
  | part :: parts =>
    match variableName? part with
    | none => segmentsAfter pattern (before ++ [.literal part]) parts
    | some name =>
      if name = "" then .error (.emptyVariable pattern)
      else if .variable name ∈ before then .error (.duplicateVariable name pattern)
      else segmentsAfter pattern (before ++ [.variable name]) parts

/-- The variables that the segments of a pattern take from the parts of a path. -/
def capture (vars : Dict String) : List Segment → List String → Option (Dict String)
  | [], [] => some vars
  | .literal s :: segments, part :: parts => if s = part then capture vars segments parts else none
  | .variable name :: segments, part :: parts =>
    capture (Dict.insert vars name part) segments parts
  | _, _ => none

end PathPattern

/-- A pattern and the segments that it has. -/
structure PathPattern where
  source : String
  segments : List PathPattern.Segment
  deriving DecidableEq, Repr

namespace PathPattern

def parse (source : String) : Except Problem PathPattern :=
  if source.toList.head? = some '/' then
    (segmentsAfter source [] (PathPattern.split source)).map (⟨source, ·⟩)
  else .error (.notAbsolute source)

/-- The values of the variables, if the path matches. -/
def matches? (p : PathPattern) (path : String) : Option (Dict String) :=
  capture [] p.segments (PathPattern.split path)

end PathPattern

end RestService
