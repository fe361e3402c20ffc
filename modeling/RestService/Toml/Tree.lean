set_option autoImplicit false

namespace RestService

/-- How a table came about. -/
inductive TableForm
  /-- In braces. -/
  | inline
  /-- By the header of a table inside it. -/
  | implied
  /-- By a key of several parts. -/
  | dotted
  /-- By its own header. -/
  | declared
  deriving DecidableEq, Repr

/-- A TOML document, or a value in one. -/
inductive TomlTree
  | text (s : String)
  | integer (n : Int)
  | float (x : Float)
  | boolean (b : Bool)
  /-- A date, a time of day or both, as it is written. -/
  | moment (s : String)
  | array (items : List TomlTree)
  | table (form : TableForm) (entries : List (String × TomlTree))
  /-- Tables that were declared one after the other under one name. -/
  | tables (items : List (List (String × TomlTree)))
  deriving Inhabited

namespace TomlTree

/-- What makes a text no TOML document. -/
inductive Problem
  | unexpectedEnd
  | unexpected (c : Char)
  | illegalEscape
  | illegalNumber
  /-- A key has a value already, or a table has been closed to it. -/
  | duplicateKey (key : String)
  /-- A key has a value that is no table. -/
  | notATable (key : String)
  /-- Arrays and tables lie too deep in one another, or a key has too many parts. -/
  | tooDeep
  deriving DecidableEq, Repr

def Problem.message : Problem → String
  | unexpectedEnd => "unexpected end of document"
  | unexpected c => s!"unexpected character '{c}'"
  | illegalEscape => "illegal escape in a string"
  | illegalNumber => "illegal number"
  | duplicateKey key => s!"duplicate key '{key}'"
  | notATable key => s!"key '{key}' is not a table"
  | tooDeep => "arrays, tables and keys are nested too deep"

/-- The problem with what stands in place of something else. -/
def unexpectedAt : List Char → Problem
  | [] => .unexpectedEnd
  | c :: _ => .unexpected c

def isBlank (c : Char) : Bool := c == ' ' || c == '\t'

def skipBlanks (cs : List Char) : List Char := cs.dropWhile isBlank

def isPlain (c : Char) : Bool := c == '\t' || (0x20 ≤ c.toNat && c.toNat != 0x7F)

end TomlTree

end RestService
