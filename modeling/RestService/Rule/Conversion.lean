import RestService.Decimal.Reading
import RestService.Resource.Value
import RestService.Text.Blank
import RestService.Text.Case

set_option autoImplicit false

namespace RestService

/-- A conversion that a rule may name. -/
inductive Conversion
  | int
  | float
  | str
  | bool
  | lower
  | upper
  | title
  deriving DecidableEq, Repr

namespace Conversion

def name : Conversion → String
  | int => "int"
  | float => "float"
  | str => "str"
  | bool => "bool"
  | lower => "lower"
  | upper => "upper"
  | title => "title"

def all : List Conversion := [int, float, str, bool, lower, upper, title]

def ofName? (s : String) : Option Conversion := all.find? fun c => c.name == s

/-- Why a conversion does not apply to a value. -/
inductive Failure
  /-- The value is of another kind than the one wanted. -/
  | expecting (wanted : String) (found : Value)
  | notAnInteger (s : String)
  | notFinite (x : Float)
  | fractional (x : Float)
  | outOfRange (x : Float)
  | notANumber (s : String)
  | notABoolean (s : String)

def Failure.message : Failure → String
  | expecting wanted found => s!"expecting {wanted}, got {found.kind}"
  | notAnInteger s => s!"'{s}' is not an integer"
  | notFinite x => s!"{Decimal.plain.text x} is not an integer"
  | fractional x => s!"{Decimal.plain.text x} has a fractional part"
  | outOfRange x => s!"{Decimal.plain.text x} is out of integer range"
  | notANumber s => s!"'{s}' is not a number"
  | notABoolean s => s!"'{s}' is not a boolean"

/-- The integer that equals a floating-point number. -/
def wholeNumber (x : Float) : Except Failure Int64 :=
  match Decimal.binary? x with
  | none => .error (.notFinite x)
  | some b =>
    match b.toInt? with
    | none => .error (.fractional x)
    | some n =>
      match Decimal.toInt64? n with
      | none => .error (.outOfRange x)
      | some n => .ok n

def toInt : Value → Except Failure Value
  | .int n => .ok (.int n)
  | .bool b => .ok (.int (if b then 1 else 0))
  | .float x => (wholeNumber x).map .int
  | .text s =>
    match Decimal.int64? (Text.trim s) with
    | some n => .ok (.int n)
    | none => .error (.notAnInteger s)
  | other => .error (.expecting "a scalar" other)

/-- To a floating-point number, rounded to the nearest. -/
def toFloat : Value → Except Failure Value
  | .float x => .ok (.float x)
  | .int n => .ok (.float (Decimal.ofInt n.toInt))
  | .text s =>
    match Decimal.float? (Text.trim s) with
    | some x => .ok (.float x)
    | none => .error (.notANumber s)
  | other => .error (.expecting "a number" other)

def toText (v : Value) : Except Failure Value :=
  match v.scalarText? with
  | some s => .ok (.text s)
  | none => .error (.expecting "a scalar" v)

def truth? (s : String) : Option Bool :=
  if s ∈ ["true", "yes", "on", "1"] then some true
  else if s ∈ ["false", "no", "off", "0"] then some false
  else none

def toBool : Value → Except Failure Value
  | .bool b => .ok (.bool b)
  | .int n => .ok (.bool (n != 0))
  | .text s =>
    match truth? (Text.lower (Text.trim s)) with
    | some b => .ok (.bool b)
    | none => .error (.notABoolean s)
  | other => .error (.expecting "a boolean" other)

def mapText (f : String → String) : Value → Except Failure Value
  | .text s => .ok (.text (f s))
  | other => .error (.expecting "a string" other)

/-- What the conversion makes of a value other than null. -/
def convert : Conversion → Value → Except Failure Value
  | int => toInt
  | float => toFloat
  | str => toText
  | bool => toBool
  | lower => mapText Text.lower
  | upper => mapText Text.upper
  | title => mapText Text.title

def apply (c : Conversion) : Value → Except Failure Value
  | .null => .ok .null
  | v => c.convert v

@[simp] theorem apply_null (c : Conversion) : c.apply .null = .ok .null := rfl

theorem ofName?_name (c : Conversion) : ofName? c.name = some c := by
  cases c <;> decide

end Conversion

end RestService
