set_option autoImplicit false

namespace RestService.Decimal

/-- The number of values that `n` bits have. -/
def twoTo (n : Nat) : Nat := Nat.pow 2 n

/-- The number of values that `n` decimal digits have. -/
def tenTo (n : Nat) : Nat := Nat.pow 10 n

@[simp] theorem twoTo_zero : twoTo 0 = 1 := rfl

theorem twoTo_succ (n : Nat) : twoTo (n + 1) = twoTo n * 2 := rfl

@[simp] theorem tenTo_zero : tenTo 0 = 1 := rfl

theorem tenTo_succ (n : Nat) : tenTo (n + 1) = tenTo n * 10 := rfl

end RestService.Decimal
