import Mathlib
import RestService.Proofs.Text.Bytes
import RestService.Text.Case

set_option autoImplicit false

namespace RestService.Text

/-- Every character of a text is an ASCII one. -/
def AllAscii (cs : List Char) : Prop := ∀ c ∈ cs, IsAscii c

instance (c : Char) : Decidable (IsAscii c) := inferInstanceAs (Decidable (c.toNat < 0x80))

instance (cs : List Char) : Decidable (AllAscii cs) := List.decidableBAll IsAscii cs

theorem isAscii_toLower {c : Char} (ascii : IsAscii c) : IsAscii c.toLower := by
  have all : ∀ n < 0x80, (Char.ofNat n).toLower.toNat < 0x80 := by decide
  have lower := all c.toNat ascii
  rwa [Char.ofNat_toNat] at lower

theorem isAscii_toUpper {c : Char} (ascii : IsAscii c) : IsAscii c.toUpper := by
  have all : ∀ n < 0x80, (Char.ofNat n).toUpper.toNat < 0x80 := by decide
  have upper := all c.toNat ascii
  rwa [Char.ofNat_toNat] at upper

theorem isLetter_ascii {c : Char} (ascii : IsAscii c) : isLetter c = c.isAlpha := if_pos ascii

theorem AllAscii.map_toUpper {cs : List Char} (ascii : AllAscii cs) :
    AllAscii (cs.map Char.toUpper) :=
  List.forall_mem_map.2 fun c mem => isAscii_toUpper (ascii c mem)

/-- The form of a character in title case; `started` tells that a run of letters has begun. -/
def titled (started : Bool) (c : Char) : Char :=
  if c.isAlpha && !started then c.toUpper else c.toLower

theorem titled_toLower (started : Bool) (c : Char) :
    titled started c.toLower = titled started c := by
  rw [titled, titled, Char.isAlpha_toLower_eq_isAlpha, Char.toUpper_toLower_eq_toUpper,
    Char.toLower_toLower_eq_toLower]

theorem toLower_titled (started : Bool) (c : Char) : (titled started c).toLower = c.toLower := by
  unfold titled
  split
  · exact Char.toLower_toUpper_eq_toLower c
  · exact Char.toLower_toLower_eq_toLower c

theorem isAscii_titled {c : Char} (started : Bool) (ascii : IsAscii c) :
    IsAscii (titled started c) := by
  unfold titled
  split
  · exact isAscii_toUpper ascii
  · exact isAscii_toLower ascii

theorem toLower_eq_self_iff {c : Char} : c.toLower = c ↔ c.isUpper = false := by
  constructor
  · intro same
    have lower := Char.isUpper_toLower_eq_false c
    rwa [same] at lower
  · intro other
    exact Char.toLower_eq_of_not_isUpper (Bool.eq_false_iff.1 other)

theorem titleFrom_cons {c : Char} (ascii : IsAscii c) (started : Bool) (cs : List Char) :
    titleFrom started (c :: cs) = titled started c :: titleFrom c.isAlpha cs := by
  rw [titleFrom, isLetter_ascii ascii, titled]
  cases letter : c.isAlpha with
  | true =>
    cases started with
    | true => rw [if_pos rfl, if_pos rfl, lowerChar_ascii c ascii]; rfl
    | false => rw [if_pos rfl, if_neg Bool.false_ne_true, upperChar_ascii c ascii]; rfl
  | false =>
    have plain : c.toLower = c := by
      rw [toLower_eq_self_iff]
      exact (Bool.or_eq_false_iff.1 letter).1
    rw [if_neg Bool.false_ne_true, Bool.false_and, if_neg Bool.false_ne_true, plain]

theorem allAscii_titleFrom {cs : List Char} (ascii : AllAscii cs) (started : Bool) :
    AllAscii (titleFrom started cs) := by
  induction cs generalizing started with
  | nil => exact List.forall_mem_nil _
  | cons c cs ih =>
    obtain ⟨here, others⟩ := List.forall_mem_cons.1 ascii
    rw [titleFrom_cons here]
    exact List.forall_mem_cons.2 ⟨isAscii_titled started here, ih others c.isAlpha⟩

/-- Title case does not depend on the case before, whether or not a run of letters has begun. -/
theorem titleFrom_map_toLower {cs : List Char} (ascii : AllAscii cs) (started : Bool) :
    titleFrom started (cs.map Char.toLower) = titleFrom started cs := by
  induction cs generalizing started with
  | nil => rfl
  | cons c cs ih =>
    obtain ⟨here, others⟩ := List.forall_mem_cons.1 ascii
    rw [List.map_cons, titleFrom_cons (isAscii_toLower here), titleFrom_cons here, titled_toLower,
      Char.isAlpha_toLower_eq_isAlpha, ih others]

theorem map_toLower_titleFrom {cs : List Char} (ascii : AllAscii cs) (started : Bool) :
    (titleFrom started cs).map Char.toLower = cs.map Char.toLower := by
  induction cs generalizing started with
  | nil => rfl
  | cons c cs ih =>
    obtain ⟨here, others⟩ := List.forall_mem_cons.1 ascii
    rw [titleFrom_cons here, List.map_cons, toLower_titled, ih others, List.map_cons]

theorem map_toLower_toUpper (cs : List Char) :
    (cs.map Char.toUpper).map Char.toLower = cs.map Char.toLower := by
  rw [List.map_map]
  exact List.map_congr_left fun c _ => Char.toLower_toUpper_eq_toLower c

theorem lowerAfter_ascii {cs : List Char} (ascii : AllAscii cs) (before : List Char) :
    lowerAfter before cs = cs.map Char.toLower := by
  induction cs generalizing before with
  | nil => rfl
  | cons c cs ih =>
    obtain ⟨here, others⟩ := List.forall_mem_cons.1 ascii
    have other : c ≠ 'Σ' := by
      rintro rfl
      have beyond : ¬IsAscii 'Σ' := by decide
      exact beyond here
    rw [lowerAfter, lowerBetween, if_neg other, lowerChar_ascii c here, ih others, List.map_cons]
    rfl

theorem flatMap_upperChar_ascii {cs : List Char} (ascii : AllAscii cs) :
    cs.flatMap upperChar = cs.map Char.toUpper := by
  induction cs with
  | nil => rfl
  | cons c cs ih =>
    obtain ⟨here, others⟩ := List.forall_mem_cons.1 ascii
    rw [List.flatMap_cons, upperChar_ascii c here, ih others, List.map_cons]
    rfl

section Texts

variable {s : String}

theorem toList_lower (ascii : AllAscii s.toList) :
    (lower s).toList = s.toList.map Char.toLower := by
  rw [lower, String.toList_ofList, lowerAfter_ascii ascii]

theorem toList_upper (ascii : AllAscii s.toList) :
    (upper s).toList = s.toList.map Char.toUpper := by
  rw [upper, String.toList_ofList, flatMap_upperChar_ascii ascii]

theorem toList_title (s : String) : (title s).toList = titleFrom false s.toList := by
  rw [title, String.toList_ofList]

theorem allAscii_title (ascii : AllAscii s.toList) : AllAscii (title s).toList := by
  rw [toList_title]
  exact allAscii_titleFrom ascii false

theorem allAscii_upper (ascii : AllAscii s.toList) : AllAscii (upper s).toList := by
  rw [toList_upper ascii]
  exact ascii.map_toUpper

theorem title_lower (ascii : AllAscii s.toList) : title (lower s) = title s := by
  rw [title, toList_lower ascii, titleFrom_map_toLower ascii, title]

theorem lower_title (ascii : AllAscii s.toList) : lower (title s) = lower s := by
  apply String.toList_inj.1
  rw [toList_lower (allAscii_title ascii), toList_title, map_toLower_titleFrom ascii,
    toList_lower ascii]

theorem lower_upper (ascii : AllAscii s.toList) : lower (upper s) = lower s := by
  apply String.toList_inj.1
  rw [toList_lower (allAscii_upper ascii), toList_upper ascii, map_toLower_toUpper,
    toList_lower ascii]

theorem title_upper (ascii : AllAscii s.toList) : title (upper s) = title s := by
  rw [← title_lower (allAscii_upper ascii), lower_upper ascii, title_lower ascii]

theorem title_title (ascii : AllAscii s.toList) : title (title s) = title s := by
  rw [← title_lower (allAscii_title ascii), lower_title ascii, title_lower ascii]

theorem lower_eq_self_iff (ascii : AllAscii s.toList) :
    lower s = s ↔ ∀ c ∈ s.toList, c.isUpper = false := by
  have alike : s.toList.map Char.toLower = s.toList ↔ ∀ c ∈ s.toList, c.toLower = c := by
    conv_lhs => rhs; rw [← List.map_id s.toList]
    exact List.map_inj_left
  rw [← String.toList_inj, toList_lower ascii, alike]
  exact forall₂_congr fun c _ => toLower_eq_self_iff

end Texts

end RestService.Text
