import RestService.Decimal.Shortest

set_option autoImplicit false

namespace RestService.Decimal

/-- How the shortest digits of a number are written. -/
structure Layout where
  /-- The point may stand this far left (`some (-4)`: four zeros after it) and this far right of the
  first digit before an exponent is used; `none` means always without an exponent. -/
  positional : Option (Int × Int)
  /-- Whole numbers end in `.0`. -/
  pointZero : Bool
  /-- Positive exponents have a plus sign. -/
  plusSign : Bool
  tie : Tie
  infinity : String
  minusInfinity : String
  notANumber : String

/-- Digits in full, never an exponent, no point in whole numbers. -/
def plain : Layout where
  positional := none
  pointZero := false
  plusSign := false
  tie := .upward
  infinity := "inf"
  minusInfinity := "-inf"
  notANumber := "NaN"

private def zeros (n : Int) : List Char := List.replicate n.toNat '0'

/-- Digits in full, the point standing `point` places right of the front of the digits. -/
def Layout.full (l : Layout) (digits : List Char) (point : Int) : List Char :=
  let count : Int := digits.length
  if count ≤ point then digits ++ zeros (point - count) ++ (if l.pointZero then ['.', '0'] else [])
  else if 0 < point then digits.take point.toNat ++ '.' :: digits.drop point.toNat
  else '0' :: '.' :: zeros (-point) ++ digits

/-- One digit, the others after a point, and the exponent. -/
def Layout.scientific (l : Layout) (digits : List Char) (point : Int) : List Char :=
  let exponent := point - 1
  let mark := if 0 ≤ exponent ∧ l.plusSign then ['e', '+'] else ['e']
  let head := match digits with
    | [] | [_] => digits
    | first :: rest => first :: '.' :: rest
  head ++ mark ++ (toString exponent).toList

def Layout.magnitude (l : Layout) (b : Binary) : List Char :=
  let shortest := b.shortest l.tie
  let digits := Nat.toDigits 10 shortest.digits
  let point : Int := digits.length + shortest.exponent
  match l.positional with
  | none => l.full digits point
  | some (least, most) =>
    if b.significand = 0 ∨ (least ≤ point ∧ point ≤ most) then l.full digits point
    else l.scientific digits point

def Layout.text (l : Layout) (x : Float) : String :=
  match binary? x with
  | some b => String.ofList ((if b.negative then ['-'] else []) ++ l.magnitude b)
  | none => if x.isNaN then l.notANumber else if x < 0 then l.minusInfinity else l.infinity

end RestService.Decimal
