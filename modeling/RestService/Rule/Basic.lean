import RestService.Rule.Conversion

set_option autoImplicit false

namespace RestService

/-- The way, or ways, in which a rule carries values. -/
inductive Direction
  | forward
  | backward
  | both
  deriving DecidableEq, Repr

namespace Direction

def includesForward : Direction → Bool
  | forward | both => true
  | backward => false

def includesBackward : Direction → Bool
  | backward | both => true
  | forward => false

def text : Direction → String
  | forward => "=>"
  | backward => "<="
  | both => "<=>"

end Direction

/-- One side of a rule. -/
structure RuleSide where
  field : String
  /-- The conversions, innermost first. -/
  conversions : List Conversion
  deriving DecidableEq, Repr

def RuleSide.text (s : RuleSide) : String :=
  s.conversions.foldl (fun inner conversion => s!"{conversion.name}({inner})") s.field

/-- A field on the left that answers to a field on the right. -/
structure Rule where
  left : RuleSide
  direction : Direction
  right : RuleSide
  /-- The field that is read must be there. -/
  mandatory : Bool
  deriving DecidableEq, Repr

namespace Rule

def text (r : Rule) : String :=
  let star := if r.mandatory then " *" else ""
  s!"{r.left.text} {r.direction.text} {r.right.text}{star}"

end Rule

end RestService
