import RestService.Decimal.Binary

/- The shortest decimal digits that read back as a given floating-point number. All reals within
half the distance to the next number read back as the number itself, those at exactly half only if
its significand is even. Among the decimals with the fewest digits that read back, the nearest is
taken. -/

set_option autoImplicit false

namespace RestService.Decimal

/-- Which of two equally near decimals is taken. -/
inductive Tie
  | upward
  | toEven
  deriving DecidableEq, Repr

/-- The decimal `digits · 10 ^ exponent`; the digits of a number that is not zero do not end in
zero. -/
structure Digits where
  digits : Nat
  exponent : Int
  deriving DecidableEq, Repr

/-- The reals that read back as one number, as multiples of `1 / scale`. -/
structure Interval where
  low : Nat
  value : Nat
  high : Nat
  scale : Nat
  closed : Bool

/-- The reals that read back as `b`. -/
def Binary.interval (b : Binary) : Interval :=
  let below := if b.leastOfBinade then 1 else 2
  let exponent := b.exponent - 2
  let factor := twoTo exponent.toNat
  { low := (4 * b.significand - below) * factor
    value := 4 * b.significand * factor
    high := (4 * b.significand + 2) * factor
    scale := twoTo (-exponent).toNat
    closed := b.significand % 2 == 0 }

/-- Whether `n · 10 ^ power` reads back. -/
def Interval.holds (i : Interval) (n : Nat) (power : Int) : Bool :=
  let point := n * tenTo power.toNat * i.scale
  let unit := tenTo (-power).toNat
  if i.closed then i.low * unit ≤ point && point ≤ i.high * unit
  else i.low * unit < point && point < i.high * unit

/-- The value divided by `10 ^ power`, rounded down, and twice the rest against one unit. -/
def Interval.divided (i : Interval) (power : Int) : Nat × Ordering :=
  let dividend := i.value * tenTo (-power).toNat
  let divisor := i.scale * tenTo power.toNat
  (dividend / divisor, compare (2 * (dividend % divisor)) divisor)

/-- The better of the two neighbours of the value on the grid of multiples of `10 ^ power`, if one
reads back. -/
def Interval.onGrid (i : Interval) (tie : Tie) (power : Int) : Option Nat :=
  let (down, rest) := i.divided power
  match i.holds down power && 0 < down, i.holds (down + 1) power with
  | true, false => some down
  | false, true => some (down + 1)
  | false, false => none
  | true, true =>
    match rest with
    | .lt => some down
    | .gt => some (down + 1)
    | .eq => if tie = .toEven ∧ down % 2 = 0 then some down else some (down + 1)

/-- The greatest power of ten that is at most the value, looked for downward from `power`. -/
def Interval.magnitude (i : Interval) : Nat → Int → Int
  | 0, power => power
  | fuel + 1, power => if 0 < (i.divided power).1 then power else i.magnitude fuel (power - 1)

/-- The first grid, from coarse to fine, with a decimal that reads back. -/
def Interval.search (i : Interval) (tie : Tie) : Nat → Int → Digits
  | 0, power => ⟨(i.divided power).1, power⟩
  | fuel + 1, power =>
    match i.onGrid tie power with
    | some n => ⟨n, power⟩
    | none => i.search tie fuel (power - 1)

def Digits.strip : Nat → Digits → Digits
  | 0, d => d
  | fuel + 1, d =>
    if d.digits ≠ 0 ∧ d.digits % 10 = 0 then Digits.strip fuel ⟨d.digits / 10, d.exponent + 1⟩
    else d

/-- The shortest decimal that reads back as a number that is not zero. -/
def Binary.shortest (b : Binary) (tie : Tie) : Digits :=
  if b.significand = 0 then ⟨0, 0⟩
  else
    let i := b.interval
    let top : Int := (Nat.log2 b.significand + b.exponent + 1) * 30103 / 100000 + 1
    let start := i.magnitude 4 top
    (i.search tie 17 start).strip 17

end RestService.Decimal
