import RestService.Decimal.Power

set_option autoImplicit false

namespace RestService.Decimal

/-- The value of a digit of radix at most 36; letters of either case follow the ten digits. -/
def digit? (radix : Nat) (c : Char) : Option Nat :=
  let value? :=
    if '0' ≤ c ∧ c ≤ '9' then some (c.toNat - 48)
    else if 'a' ≤ c ∧ c ≤ 'z' then some (c.toNat - 87)
    else if 'A' ≤ c ∧ c ≤ 'Z' then some (c.toNat - 55)
    else none
  value?.filter (· < radix)

/-- The number that the digits continue, `start` being what stands before them. -/
def natFrom (radix start : Nat) : List Char → Option Nat
  | [] => some start
  | c :: cs => (digit? radix c).bind fun d => natFrom radix (start * radix + d) cs

/-- The number written by one or more digits. -/
def nat? (radix : Nat) : List Char → Option Nat
  | [] => none
  | c :: cs => natFrom radix 0 (c :: cs)

/-- A number below `bound`, with an optional plus sign. -/
def unsigned? (radix bound : Nat) (cs : List Char) : Option Nat :=
  let digits := match cs with
    | '+' :: rest => rest
    | _ => cs
  (nat? radix digits).filter (· < bound)

/-- A number from `-bound` up to, but not including, `bound`, with an optional sign. -/
def signed? (radix bound : Nat) (cs : List Char) : Option Int :=
  match cs with
  | '-' :: digits => ((nat? radix digits).filter (· ≤ bound)).map fun n => -(n : Int)
  | '+' :: digits => ((nat? radix digits).filter (· < bound)).map Int.ofNat
  | digits => ((nat? radix digits).filter (· < bound)).map Int.ofNat

/-- A signed number of 64 bits, in decimal digits. -/
def int64? (s : String) : Option Int64 := (signed? 10 (twoTo 63) s.toList).map Int64.ofInt

/-- An unsigned number of 64 bits, in decimal digits. -/
def nat64? (s : String) : Option Nat := unsigned? 10 (twoTo 64) s.toList

def int64Text (n : Int64) : String := toString n.toInt

def toInt64? (n : Int) : Option Int64 :=
  if -twoTo 63 ≤ n ∧ n < twoTo 63 then some (Int64.ofInt n) else none

@[simp] theorem natFrom_nil (radix start : Nat) : natFrom radix start [] = some start := rfl

@[simp] theorem nat?_nil (radix : Nat) : nat? radix [] = none := rfl

theorem natFrom_append (radix start : Nat) (first second : List Char) :
    natFrom radix start (first ++ second)
      = (natFrom radix start first).bind fun n => natFrom radix n second := by
  induction first generalizing start with
  | nil => rfl
  | cons c cs ih =>
    simp only [List.cons_append, natFrom]
    cases digit? radix c with
    | none => rfl
    | some d => exact ih _

end RestService.Decimal
