import RestService.Dict

set_option autoImplicit false

namespace RestService

/-- A JSON document. A number without fraction and exponent that fits 64 bits, signed or unsigned,
is an integer; any other number is a floating-point one. -/
inductive JsonTree
  | null
  | bool (b : Bool)
  | integer (n : Int)
  | float (x : Float)
  | text (s : String)
  | array (items : List JsonTree)
  /-- The members are in ascending order of their names. -/
  | object (members : List (String × JsonTree))
  deriving Inhabited

namespace JsonTree

/-- What makes a text no JSON document. -/
inductive Problem
  | unexpectedEnd
  | unexpected (c : Char)
  | controlCharacter
  | illegalEscape
  | illegalNumber
  | numberOutOfRange
  /-- Arrays and objects lie too deep in one another. -/
  | tooDeep
  deriving DecidableEq, Repr

def Problem.message : Problem → String
  | unexpectedEnd => "unexpected end of document"
  | unexpected c => s!"unexpected character '{c}'"
  | controlCharacter => "control character in a string"
  | illegalEscape => "illegal escape in a string"
  | illegalNumber => "illegal number"
  | numberOutOfRange => "number out of floating-point range"
  | tooDeep => "arrays and objects are nested too deep"

end JsonTree

end RestService
