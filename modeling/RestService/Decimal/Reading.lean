import RestService.Decimal.Integer

set_option autoImplicit false

namespace RestService.Decimal

/-- What a decimal text says. -/
inductive Literal
  | finite (negative : Bool) (digits : Nat) (exponent : Int)
  | infinite (negative : Bool)
  | notANumber
  deriving DecidableEq, Repr

private def isDigit (c : Char) : Bool := '0' ≤ c && c ≤ '9'

/-- The exponent after the digits of a number, zero if there is none. -/
def exponent? : List Char → Option Int
  | [] => some 0
  | mark :: cs =>
    if mark = 'e' ∨ mark = 'E' then
      match cs with
      | '-' :: digits => (nat? 10 digits).map fun n => -(n : Int)
      | '+' :: digits => (nat? 10 digits).map Int.ofNat
      | digits => (nat? 10 digits).map Int.ofNat
    else none

/-- Digits, with or without a point, and the exponent. -/
def unsignedLiteral? (negative : Bool) (cs : List Char) : Option Literal :=
  let whole := cs.takeWhile isDigit
  let rest := cs.dropWhile isDigit
  let (fraction, tail) := match rest with
    | '.' :: after => (after.takeWhile isDigit, after.dropWhile isDigit)
    | _ => ([], rest)
  match nat? 10 (whole ++ fraction), exponent? tail with
  | some digits, some exponent => some (.finite negative digits (exponent - fraction.length))
  | _, _ => none

def literal? (s : String) : Option Literal :=
  let (negative, cs) := match s.toList with
    | '-' :: rest => (true, rest)
    | '+' :: rest => (false, rest)
    | cs => (false, cs)
  let name := String.ofList (cs.map Char.toLower)
  if name = "inf" ∨ name = "infinity" then some (.infinite negative)
  else if name = "nan" then some .notANumber
  else unsignedLiteral? negative cs

/-- The place of the first digit of `digits · 10 ^ exponent`: the number lies below `10 ^ place`. -/
def place (digits : Nat) (exponent : Int) : Int := (Nat.toDigits 10 digits).length + exponent

/-- The floating-point number nearest to `digits · 10 ^ exponent`. -/
def nearest (digits : Nat) (exponent : Int) : Float :=
  if digits = 0 ∨ place digits exponent < -400 then 0.0
  else if 400 < place digits exponent then 1.0 / 0.0
  else Float.ofScientific digits (exponent < 0) exponent.natAbs

/-- The floating-point number of 32 bits nearest to `digits · 10 ^ exponent`. -/
def nearest32 (digits : Nat) (exponent : Int) : Float32 :=
  if digits = 0 ∨ place digits exponent < -80 then 0.0
  else if 80 < place digits exponent then 1.0 / 0.0
  else Float32.ofScientific digits (exponent < 0) exponent.natAbs

def Literal.toFloat : Literal → Float
  | .finite false digits exponent => nearest digits exponent
  | .finite true digits exponent => -(nearest digits exponent)
  | .infinite false => 1.0 / 0.0
  | .infinite true => -1.0 / 0.0
  | .notANumber => 0.0 / 0.0

def Literal.toFloat32 : Literal → Float32
  | .finite false digits exponent => nearest32 digits exponent
  | .finite true digits exponent => -(nearest32 digits exponent)
  | .infinite false => 1.0 / 0.0
  | .infinite true => -1.0 / 0.0
  | .notANumber => 0.0 / 0.0

def float? (s : String) : Option Float := (literal? s).map Literal.toFloat

def float32? (s : String) : Option Float32 := (literal? s).map Literal.toFloat32

end RestService.Decimal
