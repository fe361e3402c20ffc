import Mathlib.Data.List.Lex
import Mathlib.Tactic.SplitIfs
import RestService.Proofs.Text.Bytes

set_option autoImplicit false

namespace RestService.Text

/-- The bytes of the first text come before those of the second. -/
def BytesBefore (s t : String) : Prop :=
  List.Lex (· < ·) s.toUTF8.toList t.toUTF8.toList

theorem lex_cons {m n : Nat} {bs ds : List UInt8} (small : n < 256) (le : m ≤ n)
    (rest : m = n → List.Lex (· < ·) bs ds) :
    List.Lex (· < ·) (UInt8.ofNat m :: bs) (UInt8.ofNat n :: ds) := by
  rcases Nat.lt_or_eq_of_le le with less | rfl
  · refine .rel (UInt8.lt_iff_toNat_lt.2 ?_)
    rw [UInt8.toNat_ofNat_of_lt' (Nat.lt_trans less small), UInt8.toNat_ofNat_of_lt' small]
    exact less
  · exact .cons (rest rfl)

/-- A smaller character has smaller bytes, whatever follows. -/
theorem lex_utf8EncodeChar {c d : Char} (less : c < d) (bs ds : List UInt8) :
    List.Lex (· < ·) (String.utf8EncodeChar c ++ bs) (String.utf8EncodeChar d ++ ds) := by
  have less : c.val.toNat < d.val.toNat := less
  have bound : d.val.toNat < 0x110000 :=
    d.valid.elim (fun low => Nat.lt_trans low (by decide)) And.right
  unfold String.utf8EncodeChar
  generalize c.val.toNat = m at *
  generalize d.val.toNat = n at *
  simp only
  split_ifs
  -- Where one has fewer bytes than the other, the first byte tells.
  any_goals
    refine lex_cons (by omega) (by omega) fun same => absurd same ?_
    omega
  · refine lex_cons (by omega) (by omega) fun _ => ?_
    exact lex_cons (by omega) (by omega) fun same => absurd same (by omega)
  · refine lex_cons (by omega) (by omega) fun _ => lex_cons (by omega) (by omega) fun _ => ?_
    exact lex_cons (by omega) (by omega) fun same => absurd same (by omega)
  · refine lex_cons (by omega) (by omega) fun _ => lex_cons (by omega) (by omega) fun _ => ?_
    refine lex_cons (by omega) (by omega) fun _ => ?_
    exact lex_cons (by omega) (by omega) fun same => absurd same (by omega)

/-- A text that comes before another one does so in bytes. -/
theorem bytesBefore_of_lt {s t : String} (less : s < t) : BytesBefore s t := by
  have less : List.Lex (· < ·) s.toList t.toList := less
  unfold BytesBefore
  rw [toList_toUTF8, toList_toUTF8]
  generalize s.toList = cs at less
  generalize t.toList = ds at less
  induction less with
  | @nil d ds =>
    obtain ⟨b, bs, bytes, -⟩ := exists_utf8EncodeChar d
    rw [List.flatMap_nil, List.flatMap_cons, bytes]
    exact .nil
  | rel less => exact lex_utf8EncodeChar less _ _
  | cons _ ih => exact ih.append_left _ _

end RestService.Text
