import RestService.Proofs.Decimal.Digits

set_option autoImplicit false

namespace RestService.Decimal

/-- Decimal digits, with a sign or without one, and the number that they write. -/
inductive Numeral : List Char → Int → Prop
  | plain {cs : List Char} {n : Nat} (written : Writes cs n) : Numeral cs n
  | plus {cs : List Char} {n : Nat} (written : Writes cs n) : Numeral ('+' :: cs) n
  | minus {cs : List Char} {n : Nat} (written : Writes cs n) : Numeral ('-' :: cs) (-n)

/-- The shortest numeral of a number: it has no plus sign, a minus sign only in front of a number
other than zero, and a zero in front of no other digit. -/
inductive Canonical : List Char → Int → Prop
  | zero : Canonical ['0'] 0
  | positive {c : Char} {cs : List Char} {n : Nat} (written : Writes (c :: cs) n)
      (leading : c ≠ '0') : Canonical (c :: cs) n
  | negative {c : Char} {cs : List Char} {n : Nat} (written : Writes (c :: cs) n)
      (leading : c ≠ '0') : Canonical ('-' :: c :: cs) (-n)

/-- Digits start with no sign. -/
theorem Writes.ne_sign {c : Char} {cs : List Char} {n : Nat} (written : Writes (c :: cs) n) :
    c ≠ '+' ∧ c ≠ '-' := by
  have decimal := written.decimal c List.mem_cons_self
  constructor
  · rintro rfl
    cases decimal
  · rintro rfl
    cases decimal

theorem map_nat?_eq_some_iff {cs : List Char} {p : Nat → Bool} {f : Nat → Int} {n : Int} :
    ((nat? 10 cs).filter p).map f = some n ↔ ∃ m, Writes cs m ∧ p m = true ∧ f m = n := by
  simp only [Option.map_eq_some_iff, Option.filter_eq_some_iff, nat?_eq_some_iff, and_assoc]

theorem natural_eq_some_iff {bound : Nat} {cs : List Char} {n : Int} :
    ((nat? 10 cs).filter (· < bound)).map Int.ofNat = some n
      ↔ ∃ m : Nat, Writes cs m ∧ m = n ∧ -bound ≤ n ∧ n < bound := by
  rw [map_nat?_eq_some_iff]
  constructor
  · rintro ⟨m, written, range, rfl⟩
    have below : m < bound := of_decide_eq_true range
    have positive : (0 : Int) ≤ Int.ofNat m := Int.natCast_nonneg m
    exact ⟨m, written, rfl, by omega, Int.ofNat_lt.2 below⟩
  · rintro ⟨m, written, rfl, -, most⟩
    have below : m < bound := Int.ofNat_lt.1 most
    exact ⟨m, written, decide_eq_true below, rfl⟩

/-- A text is read as a number exactly if it is a numeral of that number, and the number is within
the bound. -/
theorem signed?_eq_some_iff {bound : Nat} (positive : 0 < bound) {cs : List Char} {n : Int} :
    signed? 10 bound cs = some n ↔ Numeral cs n ∧ -bound ≤ n ∧ n < bound := by
  unfold signed?
  split
  · rename_i digits
    have negated (m? : Option Nat) :
        Option.map (fun n : Int => -n) (do let m ← m?; pure (m : Int))
          = m?.map fun m : Nat => -(m : Int) := by
      cases m? <;> rfl
    rw [negated, map_nat?_eq_some_iff]
    constructor
    · rintro ⟨m, written, range, rfl⟩
      have most : m ≤ bound := of_decide_eq_true range
      exact ⟨.minus written, by omega, by omega⟩
    · rintro ⟨numeral, least, -⟩
      cases numeral with
      | plain written => exact absurd rfl written.ne_sign.2
      | @minus _ m written =>
        have most : m ≤ bound := by omega
        exact ⟨m, written, decide_eq_true most, rfl⟩
  · rename_i digits
    rw [natural_eq_some_iff]
    constructor
    · rintro ⟨m, written, rfl, range⟩
      exact ⟨.plus written, range⟩
    · rintro ⟨numeral, range⟩
      cases numeral with
      | plain written => exact absurd rfl written.ne_sign.1
      | @plus _ m written => exact ⟨m, written, rfl, range⟩
  · rename_i noMinus noPlus
    rw [natural_eq_some_iff]
    constructor
    · rintro ⟨m, written, rfl, range⟩
      exact ⟨.plain written, range⟩
    · rintro ⟨numeral, range⟩
      cases numeral with
      | @plain _ m written => exact ⟨m, written, rfl, range⟩
      | plus written => exact absurd rfl (noPlus _)
      | minus written => exact absurd rfl (noMinus _)

/-- The numbers of 64 bits are read off their numerals, and no other number is. -/
theorem int64?_eq_some_iff {s : String} {n : Int64} :
    int64? s = some n ↔ Numeral s.toList n.toInt := by
  rw [int64?, Option.map_eq_some_iff]
  constructor
  · rintro ⟨m, read, rfl⟩
    obtain ⟨numeral, least, most⟩ := (signed?_eq_some_iff (by decide)).1 read
    rwa [Int64.toInt_ofInt_of_le least most]
  · intro numeral
    refine ⟨n.toInt, (signed?_eq_some_iff (by decide)).2 ⟨numeral, ?_, ?_⟩, n.ofInt_toInt⟩
    · exact n.le_toInt
    · exact n.toInt_lt

example : int64? "-9223372036854775808" = some Int64.minValue
    ∧ int64? "9223372036854775808" = none := by decide +kernel

theorem int64?_eq_none_iff {s : String} : int64? s = none
    ↔ ∀ n, Numeral s.toList n → n < -(twoTo 63) ∨ twoTo 63 - 1 < n := by
  rw [int64?, Option.map_eq_none_iff, Option.eq_none_iff_forall_ne_some]
  refine forall_congr' fun n => ?_
  rw [ne_eq, signed?_eq_some_iff (by decide), not_and]
  refine imp_congr_right fun _ => ?_
  omega

/-- A number other than zero is written without a zero in front. -/
theorem exists_toDigits {n : Nat} (positive : 0 < n) :
    ∃ c cs, Nat.toDigits 10 n = c :: cs ∧ c ≠ '0' := by
  induction n using Nat.strongRecOn with
  | ind n ih =>
    by_cases small : n < 10
    · have all : ∀ d < 10, 0 < d → Nat.digitChar d ≠ '0' := by decide
      exact ⟨_, [], Nat.toDigits_of_lt_base small, all n small positive⟩
    · obtain ⟨c, cs, front, leading⟩ := ih (n / 10) (by omega) (by omega)
      have split := Nat.toDigits_of_base_le (b := 10) (n := n) (by decide) (by omega)
      rw [front] at split
      exact ⟨c, cs ++ [(n % 10).digitChar], split, leading⟩

theorem toNat_of_isDigit {c : Char} (decimal : c.isDigit = true) :
    48 ≤ c.toNat ∧ c.toNat ≤ 57 := Char.isDigit_iff_toNat.1 decimal

theorem digitChar_of_isDigit {c : Char} (decimal : c.isDigit = true) :
    Nat.digitChar (c.toNat - 48) = c := by
  obtain ⟨least, most⟩ := toNat_of_isDigit decimal
  apply Char.toNat_inj.1
  rw [Nat.toNat_digitChar_of_lt_ten (by omega)]
  omega

/-- Digits behind a number other than zero are those that the longer number is written with. -/
theorem toDigits_ofDigitChars {cs : List Char} {start : Nat} (positive : 0 < start)
    (decimal : ∀ c ∈ cs, c.isDigit = true) :
    Nat.toDigits 10 (Nat.ofDigitChars 10 cs start) = Nat.toDigits 10 start ++ cs := by
  induction cs generalizing start with
  | nil => rw [Nat.ofDigitChars_nil, List.append_nil]
  | cons c cs ih =>
    obtain ⟨here, others⟩ := List.forall_mem_cons.1 decimal
    obtain ⟨least, most⟩ := toNat_of_isDigit here
    have small : c.toNat - 48 < 10 := by omega
    have longer := Nat.toDigits_append_toDigits (b := 10) (by decide) positive small
    rw [Nat.toDigits_of_lt_base small, digitChar_of_isDigit here] at longer
    calc Nat.toDigits 10 (Nat.ofDigitChars 10 (c :: cs) start)
        = Nat.toDigits 10 (10 * start + (c.toNat - 48)) ++ cs := by
          rw [Nat.ofDigitChars_cons]
          exact ih (by omega) others
      _ = Nat.toDigits 10 start ++ c :: cs := by rw [← longer, List.append_assoc]; rfl

/-- Digits without a zero in front are those that their number is written with. -/
theorem Writes.eq_toDigits {c : Char} {cs : List Char} {n : Nat} (written : Writes (c :: cs) n)
    (leading : c ≠ '0') : c :: cs = Nat.toDigits 10 n := by
  obtain ⟨here, others⟩ := List.forall_mem_cons.1 written.decimal
  obtain ⟨least, most⟩ := toNat_of_isDigit here
  have positive : 0 < c.toNat - 48 := by
    have other : c.toNat ≠ 48 := fun same => leading (Char.toNat_inj.1 same)
    omega
  have first : Nat.toDigits 10 (c.toNat - 48) = [c] := by
    rw [Nat.toDigits_of_lt_base (by omega), digitChar_of_isDigit here]
  have value : Nat.ofDigitChars 10 cs (c.toNat - 48) = n := by
    rw [← written.value, Nat.ofDigitChars_cons, Nat.mul_zero, Nat.zero_add]
    rfl
  have whole := toDigits_ofDigitChars positive others
  rw [first, value] at whole
  exact whole.symm

theorem Writes.ne_zero {c : Char} {cs : List Char} {n : Nat} (written : Writes (c :: cs) n)
    (leading : c ≠ '0') : n ≠ 0 := by
  rintro rfl
  have same := written.eq_toDigits leading
  rw [Nat.toDigits_zero] at same
  exact leading (List.cons.inj same).1

theorem toList_toString_neg {n : Nat} (positive : 0 < n) :
    (toString (-(n : Int))).toList = '-' :: Nat.toDigits 10 n := by
  obtain ⟨m, rfl⟩ := Nat.exists_eq_succ_of_ne_zero (Nat.ne_of_gt positive)
  have minus : toString (-((m + 1 : Nat) : Int)) = "-" ++ toString (m + 1) := rfl
  rw [Nat.succ_eq_add_one, minus, String.toList_append, toList_toString]
  rfl

/-- A number is written as its canonical numeral, -/
theorem canonical_toString (n : Int) : Canonical (toString n).toList n := by
  obtain ⟨m, same⟩ := n.eq_nat_or_neg
  rcases Nat.eq_zero_or_pos m with rfl | positive
  · have zero : n = 0 := by omega
    rw [zero]
    exact .zero
  · obtain ⟨c, cs, digits, leading⟩ := exists_toDigits positive
    have written := writes_toDigits m
    rw [digits] at written
    rcases same with rfl | rfl
    · change Canonical (toString m).toList m
      rw [toList_toString, digits]
      exact .positive written leading
    · rw [toList_toString_neg positive, digits]
      exact .negative written leading

/-- and has no other one. -/
theorem Canonical.eq_toList {cs : List Char} {n : Int} (canonical : Canonical cs n) :
    cs = (toString n).toList := by
  cases canonical with
  | zero => rfl
  | @positive c cs n written leading =>
    change c :: cs = (toString n).toList
    rw [written.eq_toDigits leading, toList_toString]
  | @negative c cs n written leading =>
    have positive : 0 < n := Nat.pos_of_ne_zero (written.ne_zero leading)
    rw [toList_toString_neg positive, written.eq_toDigits leading]

theorem Canonical.numeral {cs : List Char} {n : Int} (canonical : Canonical cs n) :
    Numeral cs n := by
  cases canonical with
  | zero => exact .plain ⟨List.cons_ne_nil _ _, List.forall_mem_singleton.2 rfl, rfl⟩
  | positive written leading => exact .plain written
  | negative written leading => exact .minus written

end RestService.Decimal
