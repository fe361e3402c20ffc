import RestService.Decimal.Binary
import RestService.Decimal.Integer
import RestService.Json.Tree

set_option autoImplicit false

namespace RestService.JsonTree

/-- The digits kept of a number, and the power of ten that they are multiplied by. -/
structure Digits where
  significand : Nat := 0
  exponent : Int := 0
  deriving DecidableEq, Repr

/-- What can be kept of a number. -/
def significandBound : Nat := Decimal.twoTo 64

/-- The digits with one more before the point; once a digit is dropped, all later ones are. -/
def Digits.addWhole (d : Digits) (digit : Nat) : Digits :=
  let longer := d.significand * 10 + digit
  if d.exponent = 0 ∧ longer < significandBound then ⟨longer, 0⟩
  else ⟨d.significand, d.exponent + 1⟩

/-- The digits with those of a fraction, up to the first that does not fit. -/
def Digits.addFraction (d : Digits) : List Nat → Digits
  | [] => d
  | digit :: digits =>
    let longer := d.significand * 10 + digit
    if longer < significandBound then Digits.addFraction ⟨longer, d.exponent - 1⟩ digits else d

def powerOfTen (n : Nat) : Float := Float.ofScientific 1 false n

/-- A number divided by `10 ^ n`, in steps of `10 ^ 308`. After two of them a significand is zero.
-/
def dividedBy (x : Float) (n : Nat) : Nat → Float
  | 0 => x
  | steps + 1 =>
    if n ≤ 308 then x / powerOfTen n
    else if x == 0 then x
    else dividedBy (x / powerOfTen 308) (n - 308) steps

/-- The value of the digits, if it is in range. -/
def Digits.toFloat? (d : Digits) : Option Float :=
  let x := Decimal.ofInt d.significand
  if d.exponent < 0 then some (dividedBy x d.exponent.natAbs 3)
  else if 308 < d.exponent then (if x == 0 then some x else none)
  else
    let product := x * powerOfTen d.exponent.toNat
    if product.isFinite then some product else none

private def isDigit (c : Char) : Bool := '0' ≤ c && c ≤ '9'

private def digitValue (c : Char) : Nat := c.toNat - '0'.toNat

/-- The digits before the point: a zero alone, or digits that do not start with one. -/
def wholeDigits? (cs : List Char) : Option (List Nat × List Char) :=
  match cs with
  | '0' :: rest => some ([0], rest)
  | _ =>
    match cs.takeWhile isDigit with
    | [] => none
    | digits => some (digits.map digitValue, cs.dropWhile isDigit)

/-- The digits after a point, none if there is no point. -/
def fractionDigits? : List Char → Option (Option (List Nat) × List Char)
  | '.' :: cs =>
    match cs.takeWhile isDigit with
    | [] => none
    | digits => some (some (digits.map digitValue), cs.dropWhile isDigit)
  | cs => some (none, cs)

/-- The digits of an exponent, of which the mark and the sign have been read. -/
def exponentDigits? (negative : Bool) (cs : List Char) : Option (Option Int × List Char) :=
  (Decimal.nat? 10 (cs.takeWhile isDigit)).map fun n =>
    (some (if negative then -(n : Int) else n), cs.dropWhile isDigit)

/-- The exponent, if there is one. -/
def exponent? : List Char → Option (Option Int × List Char)
  | mark :: cs =>
    if mark = 'e' ∨ mark = 'E' then
      match cs with
      | '-' :: cs => exponentDigits? true cs
      | '+' :: cs => exponentDigits? false cs
      | cs => exponentDigits? false cs
    else some (none, mark :: cs)
  | [] => some (none, [])

/-- The tree of a floating-point number; what is not finite is nothing. -/
def ofFloat (x : Float) : JsonTree := if x.isFinite then .float x else .null

/-- The number of a sign and its digits. Minus zero is a floating-point number. -/
def numberOf (negative : Bool) (whole : List Nat) (fraction : Option (List Nat))
    (exponent : Option Int) : Except Problem JsonTree :=
  let kept := whole.foldl Digits.addWhole {}
  let signed (x : Float) : JsonTree := ofFloat (if negative then -x else x)
  match fraction, exponent, kept.exponent with
  | none, none, 0 =>
    if !negative then .ok (.integer kept.significand)
    else if kept.significand = 0 ∨ Decimal.twoTo 63 < kept.significand then
      .ok (signed (Decimal.ofInt kept.significand))
    else .ok (.integer (-(kept.significand : Int)))
  | _, _, _ =>
    let digits := kept.addFraction (fraction.getD [])
    match Digits.toFloat? ⟨digits.significand, digits.exponent + exponent.getD 0⟩ with
    | some x => .ok (signed x)
    | none => .error .numberOutOfRange

/-- The number at the front, and what follows it. -/
def readNumber (cs : List Char) : Except Problem (JsonTree × List Char) :=
  let (negative, cs) := match cs with
    | '-' :: rest => (true, rest)
    | _ => (false, cs)
  let parts := do
    let (whole, cs) ← wholeDigits? cs
    let (fraction, cs) ← fractionDigits? cs
    let (exponent, rest) ← exponent? cs
    return (whole, fraction, exponent, rest)
  match parts with
  | none => .error .illegalNumber
  | some (whole, fraction, exponent, rest) =>
    (numberOf negative whole fraction exponent).map fun number => (number, rest)

end RestService.JsonTree
