import RestService.Decimal.Integer
import RestService.Decimal.Reading
import RestService.Yaml.Problem
import RestService.Yaml.Tree

set_option autoImplicit false

namespace RestService.Yaml

/-- What a plain scalar stands for. -/
inductive PlainValue
  | null
  | bool (b : Bool)
  | integer (n : Int)
  /-- A whole number beyond 64 bits, and within 128. -/
  | wide (n : Int)
  | float (x : Float)
  | text

def isNullWord (s : String) : Bool := s ∈ ["null", "Null", "NULL", "~"]

def boolOfWord? (s : String) : Option Bool :=
  if s ∈ ["true", "True", "TRUE"] then some true
  else if s ∈ ["false", "False", "FALSE"] then some false
  else none

def withoutSign : List Char → List Char
  | '+' :: cs | '-' :: cs => cs
  | cs => cs

/-- Whether there are several digits after an optional sign, the first one a zero. -/
def isPaddedDigits (cs : List Char) : Bool :=
  match withoutSign cs with
  | '0' :: c :: rest => (c :: rest).all Char.isDigit
  | _ => false

/-- The whole number of the characters without their sign. -/
def magnitude? (digits : List Char) : Option Nat :=
  match digits with
  | '0' :: 'x' :: rest => Decimal.nat? 16 rest
  | '0' :: 'o' :: rest => Decimal.nat? 8 rest
  | '0' :: 'b' :: rest => Decimal.nat? 2 rest
  | _ => if isPaddedDigits digits then none else Decimal.nat? 10 digits

def wholeNumber? : List Char → Option Int
  | '-' :: digits => (magnitude? digits).map fun n => -(n : Int)
  | '+' :: digits | digits => (magnitude? digits).map Int.ofNat

/-- Whether a whole number fits 64 bits, signed or unsigned. -/
def fits64 (n : Int) : Bool := -Decimal.twoTo 63 ≤ n && n < Decimal.twoTo 64

/-- Whether a whole number fits 128 bits, signed or unsigned. -/
def fits128 (n : Int) : Bool := -Decimal.twoTo 127 ≤ n && n < Decimal.twoTo 128

/-- The whole number that a scalar writes, if it fits 128 bits. -/
def integerValue? (s : String) : Option PlainValue :=
  match wholeNumber? s.toList with
  | none => none
  | some n => if fits64 n then some (.integer n) else if fits128 n then some (.wide n) else none

/-- The floating-point number that a scalar writes. Digits must give a finite one. -/
def floatValue? (s : String) : Option Float :=
  if s ∈ [".inf", ".Inf", ".INF", "+.inf", "+.Inf", "+.INF"] then some (1.0 / 0.0)
  else if s ∈ ["-.inf", "-.Inf", "-.INF"] then some (-1.0 / 0.0)
  else if s ∈ [".nan", ".NaN", ".NAN"] then some (0.0 / 0.0)
  else (Decimal.float? s).filter Float.isFinite

def plainValue (s : String) : PlainValue :=
  if s = "" || isNullWord s then .null
  else match boolOfWord? s with
    | some b => .bool b
    | none =>
      match integerValue? s with
      | some value => value
      | none =>
        if isPaddedDigits s.toList then .text
        else match floatValue? s with
          | some x => .float x
          | none => .text

def PlainValue.toTree (s : String) : PlainValue → Except Problem YamlTree
  | .null => .ok .null
  | .bool b => .ok (.bool b)
  | .integer n => .ok (.integer n)
  | .wide n => .error (.wideNumber n)
  | .float x => .ok (.float x)
  | .text => .ok (.text s)

/-- The tags that say of which kind a scalar is. -/
inductive ScalarTag
  | null
  | bool
  | int
  | float
  deriving DecidableEq, Repr

/-- The kind that a tag, without its common front, tells. -/
def ScalarTag.of? (tag : String) : Option ScalarTag :=
  if tag = "tag:yaml.org,2002:null" then some .null
  else if tag = "tag:yaml.org,2002:bool" then some .bool
  else if tag = "tag:yaml.org,2002:int" then some .int
  else if tag = "tag:yaml.org,2002:float" then some .float
  else none

def ScalarTag.tree (kind : ScalarTag) (s : String) : Except Problem YamlTree :=
  let tree? : Option (Except Problem YamlTree) := match kind with
    | null => if isNullWord s then some (.ok .null) else none
    | bool => (boolOfWord? s).map fun b => .ok (.bool b)
    | int => (integerValue? s).map (PlainValue.toTree s)
    | float => (floatValue? s).map fun x => .ok (.float x)
  tree?.getD (.error (.mismatchedTag s))

end RestService.Yaml
