import RestService.Decimal.Power

set_option autoImplicit false

namespace RestService.Decimal

/-- The number `± significand · 2 ^ exponent`. -/
structure Binary where
  negative : Bool
  significand : Nat
  exponent : Int
  /-- The numbers below this one lie half as far apart as those above it. -/
  leastOfBinade : Bool
  deriving DecidableEq, Repr

def binary? (x : Float) : Option Binary :=
  let bits : Nat := x.toBits.toNat
  let negative : Bool := bits ≥ twoTo 63
  let biased : Nat := bits / twoTo 52 % twoTo 11
  let fraction : Nat := bits % twoTo 52
  if biased = twoTo 11 - 1 then none
  else if biased = 0 then some ⟨negative, fraction, -1074, false⟩
  else some ⟨negative, twoTo 52 + fraction, (biased : Int) - 1075, fraction = 0 ∧ 1 < biased⟩

def Binary.toInt? (b : Binary) : Option Int :=
  let sign : Int := if b.negative then -1 else 1
  if 0 ≤ b.exponent then some (sign * b.significand * twoTo b.exponent.toNat)
  else
    let unit := twoTo (-b.exponent).toNat
    if b.significand % unit = 0 then some (sign * (b.significand / unit : Nat)) else none

def ofInt (n : Int) : Float := Float.ofInt n

end RestService.Decimal
