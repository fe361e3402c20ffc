import RestService.Decimal.Integer
import RestService.Decimal.Layout

set_option autoImplicit false

namespace RestService.Decimal

/-- One or more decimal digits, and the number that they write. -/
structure Writes (cs : List Char) (n : Nat) : Prop where
  some : cs ≠ []
  decimal : ∀ c ∈ cs, c.isDigit = true
  value : Nat.ofDigitChars 10 cs 0 = n

theorem digit?_eq_some_iff {c : Char} {d : Nat} :
    digit? 10 c = some d ↔ c.isDigit = true ∧ d = c.toNat - 48 := by
  have decimal : c.isDigit = true ↔ '0' ≤ c ∧ c ≤ '9' := Char.isDigit_iff_toNat
  rw [decimal]
  unfold digit?
  by_cases inside : '0' ≤ c ∧ c ≤ '9'
  · have small : c.toNat ≤ 57 := inside.2
    have below : c.toNat - 48 < 10 := by omega
    simp only [inside, and_self, ↓reduceIte, Option.filter_some, below, decide_true,
      Option.some.injEq, true_and]
    exact eq_comm
  · -- letters stand for ten and more
    simp only [inside, ↓reduceIte, false_and, iff_false]
    intro found
    split at found
    · rename_i lower
      have least : 97 ≤ c.toNat := lower.1
      have large : ¬c.toNat - 87 < 10 := by omega
      simp [Option.filter, large] at found
    · split at found
      · rename_i upper
        have least : 65 ≤ c.toNat := upper.1
        have large : ¬c.toNat - 55 < 10 := by omega
        simp [Option.filter, large] at found
      · cases found

theorem natFrom_eq_some_iff {cs : List Char} {start n : Nat} :
    natFrom 10 start cs = some n
      ↔ (∀ c ∈ cs, c.isDigit = true) ∧ Nat.ofDigitChars 10 cs start = n := by
  induction cs generalizing start with
  | nil => simp [natFrom]
  | cons c cs ih =>
    rw [natFrom, List.forall_mem_cons, Nat.ofDigitChars_cons, Option.bind_eq_some_iff]
    constructor
    · rintro ⟨d, first, rest⟩
      obtain ⟨decimal, rfl⟩ := digit?_eq_some_iff.1 first
      obtain ⟨others, value⟩ := ih.1 rest
      rw [Nat.mul_comm] at value
      exact ⟨⟨decimal, others⟩, value⟩
    · rintro ⟨⟨decimal, others⟩, value⟩
      refine ⟨c.toNat - 48, digit?_eq_some_iff.2 ⟨decimal, rfl⟩, ih.2 ⟨others, ?_⟩⟩
      rw [Nat.mul_comm]
      exact value

theorem nat?_eq_some_iff {cs : List Char} {n : Nat} : nat? 10 cs = some n ↔ Writes cs n := by
  cases cs with
  | nil =>
    constructor
    · intro found
      cases found
    · intro written
      exact absurd rfl written.some
  | cons c cs =>
    rw [nat?, natFrom_eq_some_iff]
    constructor
    · rintro ⟨decimal, value⟩
      exact ⟨List.cons_ne_nil c cs, decimal, value⟩
    · intro written
      exact ⟨written.decimal, written.value⟩

theorem writes_toDigits (n : Nat) : Writes (Nat.toDigits 10 n) n := by
  refine ⟨Nat.toDigits_ne_nil, fun c mem => ?_, Nat.ofDigitChars_ten_toDigits⟩
  exact Nat.isDigit_of_mem_toDigits (by decide) (by decide) mem

theorem toList_toString (n : Nat) : (toString n).toList = Nat.toDigits 10 n := by
  rw [Nat.toString_eq_repr, Nat.toList_repr]

/-- The digits of a number of 64 bits are read as that number. -/
theorem nat64?_toString {n : Nat} (small : n < twoTo 64) : nat64? (toString n) = some n := by
  have number : nat? 10 (Nat.toDigits 10 n) = some n := nat?_eq_some_iff.2 (writes_toDigits n)
  unfold nat64? unsigned?
  rw [toList_toString]
  split
  · rename_i rest those
    -- no digit is a plus sign
    rw [those] at number
    cases number
  · simp only [number]
    exact Option.filter_some_pos (by simpa using small)

theorem toInt64?_toInt (n : Int64) : toInt64? n.toInt = some n := by
  have least := n.le_toInt
  have most := n.toInt_lt
  rw [toInt64?, if_pos ⟨least, most⟩, Int64.ofInt_toInt]

theorem toInt_of_toInt64? {n : Int} {m : Int64} (fits : toInt64? n = some m) : m.toInt = n := by
  unfold toInt64? at fits
  split at fits
  · rename_i range
    cases fits
    exact Int64.toInt_ofInt_of_le range.1 range.2
  · cases fits

theorem toString_ne_empty (n : Nat) : toString n ≠ "" := by
  intro same
  have digits : Nat.toDigits 10 n = [] := by
    rw [← toList_toString, same]
    rfl
  exact Nat.toDigits_ne_nil digits

theorem int64Text_ne_empty (n : Int64) : int64Text n ≠ "" := by
  unfold int64Text
  cases n.toInt with
  | ofNat m => exact toString_ne_empty m
  | negSucc m =>
    have minus : toString (Int.negSucc m) = "-" ++ toString (m + 1) := rfl
    rw [minus]
    intro same
    have signed := congrArg String.toList same
    rw [String.toList_append] at signed
    cases signed

theorem Layout.full_ne_nil (l : Layout) {digits : List Char} (ne : digits ≠ []) (point : Int) :
    l.full digits point ≠ [] := by
  unfold Layout.full
  simp only
  split
  · exact List.append_ne_nil_of_left_ne_nil (List.append_ne_nil_of_left_ne_nil ne _) _
  · split
    · exact List.append_ne_nil_of_right_ne_nil _ (List.cons_ne_nil _ _)
    · exact List.cons_ne_nil _ _

theorem plain_text_ne_empty (x : Float) : plain.text x ≠ "" := by
  unfold Layout.text
  split
  · rename_i b _
    have magnitude : plain.magnitude b ≠ [] := plain.full_ne_nil Nat.toDigits_ne_nil _
    intro same
    have none := congrArg String.toList same
    rw [String.toList_ofList] at none
    exact List.append_ne_nil_of_right_ne_nil _ magnitude none
  · split
    · decide
    · split <;> decide

end RestService.Decimal
