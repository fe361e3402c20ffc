import RestService.Decimal.Integer
import RestService.Decimal.Layout
import RestService.Dict

set_option autoImplicit false

namespace RestService

/-- The key that holds the type name of a record on the wire. -/
def typeKey : String := "!type"

/-- A value inside an entity. -/
inductive Value
  | null
  | bool (b : Bool)
  | int (n : Int64)
  | float (x : Float)
  | text (s : String)
  | list (items : List Value)
  /-- A record without a type. -/
  | mapping (fields : List (String × Value))
  | resource (typeName : String) (fields : List (String × Value))
  deriving Inhabited

/-- The fields of a record, in ascending order of their names. -/
abbrev Fields := Dict Value

/-- A record with a type. -/
structure Resource where
  typeName : String
  fields : Fields := []

def Resource.toValue (r : Resource) : Value := .resource r.typeName r.fields

def Resource.insert (r : Resource) (field : String) (value : Value) : Resource :=
  { r with fields := Dict.insert r.fields field value }

def Resource.erase (r : Resource) (field : String) : Resource :=
  { r with fields := Dict.erase r.fields field }

/-- The type name with the names of the fields. -/
def Resource.summary (r : Resource) : String :=
  r.typeName ++ "\x7b" ++ String.intercalate ", " (Dict.keys r.fields) ++ "\x7d"

namespace Value

/-- The name of the kind of a value, as messages use it. -/
def kind : Value → String
  | null => "null"
  | bool _ => "boolean"
  | int _ => "integer"
  | float _ => "float"
  | text _ => "string"
  | list _ => "list"
  | mapping _ => "mapping"
  | resource _ _ => "resource"

/-- Null, booleans, numbers and texts. -/
def isScalar : Value → Bool
  | null | bool _ | int _ | float _ | text _ => true
  | list _ | mapping _ | resource _ _ => false

def isNull : Value → Bool
  | null => true
  | _ => false

def text? : Value → Option String
  | text s => some s
  | _ => none

def resource? : Value → Option Resource
  | resource typeName fields => some ⟨typeName, fields⟩
  | _ => none

def boolText (b : Bool) : String := if b then "true" else "false"

def scalarText? : Value → Option String
  | bool b => some (boolText b)
  | int n => some (Decimal.int64Text n)
  | float x => some (Decimal.plain.text x)
  | text s => some s
  | null | list _ | mapping _ | resource _ _ => none

end Value

end RestService
