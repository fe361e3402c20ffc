import Mathlib.Data.List.TakeWhile
import RestService.Proofs.Text.Blank
import RestService.Proofs.Text.Bytes
import RestService.Rule.Token

set_option autoImplicit false

namespace RestService.Rule

/-- What a token may be: a name is that of the type, or a letter with letters, digits and
underscores behind it. -/
def TokenKind.IsLegal : TokenKind → Prop
  | name s => s = typeKey
      ∨ ∃ c cs, s.toList = c :: cs ∧ c.isAlpha = true ∧ ∀ d ∈ cs, isNameChar d = true
  | _ => True

/-- A token ends where `rest` begins: what follows it does not make it a longer one. -/
def TokenKind.Ends (rest : List Char) : TokenKind → Prop
  | name _ => ∀ c ∈ rest.head?, isNameChar c = false
  | backward => ∀ c ∈ rest.head?, c ≠ '>'
  | _ => True

namespace TokenKind

/-- A letter starts a name, which goes on as long as it can. -/
theorem read?_of_isAlpha {c : Char} (letter : c.isAlpha = true) (cs : List Char) :
    read? (c :: cs)
      = some (name (String.ofList (c :: cs.takeWhile isNameChar)), cs.dropWhile isNameChar) := by
  unfold read?
  split
  case h_8 same =>
    obtain ⟨rfl, rfl⟩ := List.cons.inj same
    exact if_pos letter
  case h_9 same => cases same
  all_goals
    -- every other token starts with a mark
    rename_i same
    rw [(List.cons.inj same).1] at letter
    exact absurd letter (by decide)

/-- Nothing but a token is read, and the whole of it. -/
theorem sound_of_read? {cs rest : List Char} {kind : TokenKind}
    (found : read? cs = some (kind, rest)) :
    kind.IsLegal ∧ cs = kind.text.toList ++ rest ∧ kind.Ends rest := by
  unfold read? at found
  split at found
  case h_5 longer =>
    cases found
    refine ⟨trivial, rfl, fun c mem same => ?_⟩
    obtain ⟨more, rfl⟩ := List.head?_eq_some_iff.1 mem
    exact longer more (congrArg (· :: more) same)
  case h_7 =>
    split at found
    · cases found
    · rename_i closed
      cases found
      refine ⟨.inl rfl, rfl, fun c mem => ?_⟩
      rw [mem] at closed
      exact Bool.eq_false_iff.2 closed
  case h_8 =>
    split at found
    · rename_i letter
      cases found
      refine ⟨.inr ⟨_, _, String.toList_ofList, letter, fun d => List.mem_takeWhile_imp⟩, ?_,
        Text.stops_dropWhile isNameChar _⟩
      rw [text, String.toList_ofList, List.cons_append, List.takeWhile_append_dropWhile]
    · cases found
  case h_9 => cases found
  all_goals
    cases found
    exact ⟨trivial, rfl, trivial⟩

/-- A token is read off its text, if what follows does not make it a longer one. -/
theorem read?_text {kind : TokenKind} (legal : kind.IsLegal) {rest : List Char}
    (ends : kind.Ends rest) : read? (kind.text.toList ++ rest) = some (kind, rest) := by
  cases kind with
  | name s =>
    rcases legal with rfl | ⟨c, cs, whole, letter, inside⟩
    · have closed : (rest.head?.map isNameChar).getD false = false := by
        cases rest with
        | nil => rfl
        | cons c rest => exact ends c rfl
      change (if (rest.head?.map isNameChar).getD false = true then _ else _) = _
      rw [closed]
      rfl
    · obtain ⟨taken, dropped⟩ := Text.takeWhile_dropWhile_append inside ends
      rw [text, whole, List.cons_append, read?_of_isAlpha letter, taken, dropped, ← whole,
        String.ofList_toList]
  | backward =>
    change read? ('<' :: '=' :: rest) = _
    rw [read?]
    rintro more rfl
    exact ends '>' rfl rfl
  | _ => rfl

/-- A token is read exactly off its own text, as far as that goes. -/
theorem read?_eq_some_iff {cs rest : List Char} {kind : TokenKind} :
    read? cs = some (kind, rest)
      ↔ kind.IsLegal ∧ cs = kind.text.toList ++ rest ∧ kind.Ends rest := by
  refine ⟨sound_of_read?, ?_⟩
  rintro ⟨legal, rfl, ends⟩
  exact read?_text legal ends

/-- No token starts with a blank. -/
theorem exists_text_eq_cons {kind : TokenKind} (legal : kind.IsLegal) :
    ∃ c cs, kind.text.toList = c :: cs ∧ Text.isBlank c = false := by
  cases kind with
  | name s =>
    rcases legal with rfl | ⟨c, cs, whole, letter, -⟩
    · exact ⟨'!', _, rfl, by decide⟩
    · have printable := Text.isPrintable_of_isAlpha letter
      refine ⟨c, cs, whole, Text.isBlank_of_isPrintable printable ?_⟩
      rintro rfl
      exact absurd letter (by decide)
  | _ => exact ⟨_, _, rfl, by decide⟩

theorem text_ne_empty {kind : TokenKind} (legal : kind.IsLegal) : kind.text ≠ "" := by
  obtain ⟨c, cs, text, -⟩ := exists_text_eq_cons legal
  intro empty
  rw [empty] at text
  cases text

end TokenKind

/-- The characters `cs` are tokens of these kinds, with blanks between them. -/
inductive Spells : List Char → List TokenKind → Prop
  | nil : Spells [] []
  | blank {c : Char} {cs : List Char} {kinds : List TokenKind} (blank : Text.isBlank c = true)
      (rest : Spells cs kinds) : Spells (c :: cs) kinds
  | token (kind : TokenKind) {cs : List Char} {kinds : List TokenKind} (legal : kind.IsLegal)
      (ends : kind.Ends cs) (rest : Spells cs kinds) :
      Spells (kind.text.toList ++ cs) (kind :: kinds)

theorem Spells.isLegal {cs : List Char} {kinds : List TokenKind} (spelt : Spells cs kinds) :
    ∀ kind ∈ kinds, kind.IsLegal := by
  induction spelt with
  | nil => exact fun kind mem => absurd mem List.not_mem_nil
  | blank _ _ ih => exact ih
  | token _ legal _ _ ih => exact List.forall_mem_cons.2 ⟨legal, ih⟩

theorem tokensFrom_text {kind : TokenKind} (legal : kind.IsLegal) {rest : List Char}
    (ends : kind.Ends rest) (column : Nat) :
    tokensFrom column (kind.text.toList ++ rest)
      = (tokensFrom (column + kind.text.toList.length) rest).map (⟨kind, column⟩ :: ·) := by
  obtain ⟨c, tail, front, solid⟩ := TokenKind.exists_text_eq_cons legal
  have found := TokenKind.read?_text legal ends
  have width : (c :: (tail ++ rest)).length - rest.length = (c :: tail).length := by
    rw [← List.cons_append, List.length_append, Nat.add_sub_cancel]
  rw [front, List.cons_append] at found ⊢
  rw [tokensFrom, if_neg (Bool.eq_false_iff.1 solid)]
  split
  · rename_i missing
    rw [missing] at found
    cases found
  · rename_i again
    rw [again] at found
    cases found
    rw [width]
    cases tokensFrom _ rest <;> rfl

/-- A text has tokens of just the kinds that it spells, wherever it starts. -/
theorem exists_tokensFrom_iff (column : Nat) {cs : List Char} {kinds : List TokenKind} :
    (∃ ts, tokensFrom column cs = .ok ts ∧ ts.map Token.kind = kinds) ↔ Spells cs kinds := by
  constructor
  · rintro ⟨ts, read, rfl⟩
    fun_induction tokensFrom column cs generalizing ts with
    | case1 column =>
      cases read
      exact .nil
    | case2 column c tail blank ih => exact .blank blank (ih ts read)
    | case3 => cases read
    | case4 => cases read
    | case5 column c tail solid kind rest found later read_later ih =>
      cases read
      obtain ⟨legal, whole, ends⟩ := TokenKind.sound_of_read? found
      rw [whole]
      exact .token kind legal ends (ih later read_later)
  · intro spelt
    induction spelt generalizing column with
    | nil => exact ⟨[], by rw [tokensFrom], rfl⟩
    | blank blank _ ih =>
      obtain ⟨ts, read, same⟩ := ih (column + 1)
      exact ⟨ts, by rw [tokensFrom, if_pos blank, read], same⟩
    | token kind legal ends _ ih =>
      obtain ⟨ts, read, same⟩ := ih (column + kind.text.toList.length)
      exact ⟨_, by rw [tokensFrom_text legal ends, read]; rfl, congrArg _ same⟩

end RestService.Rule
