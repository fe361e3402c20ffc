import RestService.Decimal.Reading
import RestService.Negotiation.ListHeader

set_option autoImplicit false

namespace RestService

/-- A quality factor in thousandths. -/
abbrev Quality := Nat

namespace Quality

/-- The factor of an item that names none. -/
def full : Quality := 1000

/-- The nearest whole number to a number from 0 to 1000, a half going up. -/
def rounded (x : Float32) : Nat :=
  let whole := x.toUInt16
  if x - whole.toFloat32 < 0.5 then whole.toNat else whole.toNat + 1

/-- A number cut off at 0 and at 1, in thousandths. The product is taken in 32 bits. -/
def ofFloat32 (x : Float32) : Quality :=
  if x ≤ 0 then 0 else if 1 ≤ x then full else rounded (x * 1000)

/-- The factor that a text writes, if it writes a finite number. -/
def ofText? (s : String) : Option Quality :=
  ((Decimal.float32? (Text.trim s)).filter Float32.isFinite).map ofFloat32

def ofItem (header : String) (item : HeaderItem) : Except SourceError Quality :=
  match item.param? "q" with
  | none => .ok full
  | some raw =>
    match ofText? raw with
    | some q => .ok q
    | none => .error (.header header s!"illegal quality factor '{raw}'")

/-- A factor of zero says that the item is not acceptable. -/
def isAcceptable (q : Quality) : Bool := 0 < q

end Quality

end RestService
