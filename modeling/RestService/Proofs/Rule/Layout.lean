import RestService.Proofs.Rule.Token
import RestService.Rule.Parser

set_option autoImplicit false

namespace RestService.Rule

/-- The text `word` stands in `cs` at a column, the first character of `cs` being at `first`. -/
def StandsAt (first : Nat) (cs : List Char) (column : Nat) (word : String) : Prop :=
  first ≤ column ∧ word ≠ "" ∧ word.toList <+: cs.drop (column - first)

theorem StandsAt.front (first : Nat) {word : String} (some : word ≠ "") (rest : List Char) :
    StandsAt first (word.toList ++ rest) first word := by
  refine ⟨le_rfl, some, ?_⟩
  rw [Nat.sub_self, List.drop_zero]
  exact List.prefix_append _ _

theorem drop_append {first column : Nat} (front cs : List Char)
    (past : first + front.length ≤ column) :
    (front ++ cs).drop (column - first) = cs.drop (column - (first + front.length)) := by
  have split : column - first = front.length + (column - (first + front.length)) := by omega
  rw [split, List.drop_length_add_append]

theorem StandsAt.append {first column : Nat} {cs : List Char} {word : String} (front : List Char)
    (stands : StandsAt (first + front.length) cs column word) :
    StandsAt first (front ++ cs) column word := by
  obtain ⟨low, some, inside⟩ := stands
  refine ⟨by omega, some, ?_⟩
  rwa [drop_append front cs low]

theorem StandsAt.range {first column : Nat} {cs : List Char} {word : String}
    (stands : StandsAt first cs column word) : first ≤ column ∧ column < first + cs.length := by
  obtain ⟨low, some, inside⟩ := stands
  have full : word.toList.length ≠ 0 := by
    rwa [ne_eq, List.length_eq_zero_iff, String.toList_eq_nil_iff]
  have fits := inside.length_le
  rw [List.length_drop] at fits
  omega

def Token.behind (t : Token) : Nat := t.column + t.kind.text.length

/-- The tokens `ts` are those of the text `cs`, which starts at the column `first`, as far as the
column `stop`. -/
structure Covers (first : Nat) (cs : List Char) (stop : Nat) (ts : List Token) : Prop where
  forward : first ≤ stop
  legal : ∀ t ∈ ts, t.kind.IsLegal
  /-- Each token is at its column, -/
  stands : ∀ t ∈ ts, StandsAt first cs t.column t.kind.text
  inside : ∀ t ∈ ts, t.behind ≤ stop
  rising : ts.Pairwise fun s t => s.column < t.column
  /-- and no two of them overlap. -/
  apart : ts.Pairwise fun s t => s.behind ≤ t.column
  /-- A character outside the tokens is a blank. -/
  blank : ∀ column c, first ≤ column → column < stop → cs[column - first]? = some c →
    (∀ t ∈ ts, ¬(t.column ≤ column ∧ column < t.behind)) → Text.isBlank c = true
  /-- What follows a token does not go on with it: no name is followed by a character of names. -/
  ends : ∀ t ∈ ts, t.kind.Ends (cs.drop (t.behind - first))

/-- Some token is at the front of a text. -/
def StartsToken (cs : List Char) : Prop :=
  ∃ (kind : TokenKind) (rest : List Char),
    kind.IsLegal ∧ cs = kind.text.toList ++ rest ∧ kind.Ends rest

/-- At its column stands a character that is not blank and that starts no token. -/
def IllegalCharacter.Stands (illegal : IllegalCharacter) (first : Nat) (cs : List Char) : Prop :=
  first ≤ illegal.column ∧ ∃ rest, cs.drop (illegal.column - first) = illegal.char :: rest
    ∧ Text.isBlank illegal.char = false ∧ ¬StartsToken (illegal.char :: rest)

theorem startsToken_iff {cs : List Char} :
    StartsToken cs ↔ ∃ found, TokenKind.read? cs = some found := by
  simp only [StartsToken, Prod.exists, TokenKind.read?_eq_some_iff]

theorem not_startsToken_iff {cs : List Char} :
    ¬StartsToken cs ↔ TokenKind.read? cs = none := by
  rw [startsToken_iff, ← Option.isSome_iff_exists, Option.not_isSome_iff_eq_none]

section Layout

variable {first stop : Nat} {front cs : List Char} {ts hs : List Token} {t : Token}

theorem Token.column_lt_behind (legal : t.kind.IsLegal) : t.column < t.behind := by
  have some : t.kind.text.length ≠ 0 := by
    rw [ne_eq, String.length_eq_zero_iff]
    exact TokenKind.text_ne_empty legal
  unfold behind
  omega

theorem Covers.none (first : Nat) (cs : List Char) : Covers first cs first [] where
  forward := le_rfl
  legal := List.forall_mem_nil _
  stands := List.forall_mem_nil _
  inside := List.forall_mem_nil _
  rising := .nil
  apart := .nil
  blank := fun column c low high => absurd high (by omega)
  ends := List.forall_mem_nil _

theorem Covers.blanks (blank : ∀ c ∈ front, Text.isBlank c = true) (cs : List Char) :
    Covers first (front ++ cs) (first + front.length) [] where
  forward := Nat.le_add_right _ _
  legal := List.forall_mem_nil _
  stands := List.forall_mem_nil _
  inside := List.forall_mem_nil _
  rising := .nil
  apart := .nil
  blank := fun column c low high here _ => by
    rw [List.getElem?_append_left (by omega)] at here
    exact blank c (List.mem_of_getElem? here)
  ends := List.forall_mem_nil _

theorem Covers.token (legal : t.kind.IsLegal) (ends : t.kind.Ends cs) :
    Covers t.column (t.kind.text.toList ++ cs) t.behind [t] where
  forward := Nat.le_of_lt (t.column_lt_behind legal)
  legal := List.forall_mem_singleton.2 legal
  stands := List.forall_mem_singleton.2 (.front t.column (TokenKind.text_ne_empty legal) cs)
  inside := List.forall_mem_singleton.2 le_rfl
  rising := List.pairwise_singleton _ t
  apart := List.pairwise_singleton _ t
  blank := fun column c low high _ outside =>
    absurd ⟨low, high⟩ (outside t List.mem_cons_self)
  ends := List.forall_mem_singleton.2 (by
    have width : t.behind - t.column = t.kind.text.toList.length := by
      rw [Token.behind, String.length_toList, Nat.add_sub_cancel_left]
    rwa [width, List.drop_left])

/-- Tokens that cover the front of a text and those of the rest cover the whole. -/
theorem Covers.append (early : Covers first (front ++ cs) (first + front.length) hs)
    (late : Covers (first + front.length) cs stop ts) :
    Covers first (front ++ cs) stop (hs ++ ts) := by
  have forward := late.forward
  have between : ∀ s ∈ hs, ∀ t ∈ ts, s.behind ≤ t.column := by
    intro s left t right
    exact (early.inside s left).trans (late.stands t right).1
  have past : ∀ t ∈ ts, first + front.length ≤ t.behind := by
    intro t mem
    have place := (late.stands t mem).1
    have wide := t.column_lt_behind (late.legal t mem)
    omega
  refine ⟨by omega, ?_, ?_, ?_, ?_, ?_, ?_, ?_⟩
  · exact List.forall_mem_append.2 ⟨early.legal, late.legal⟩
  · exact List.forall_mem_append.2 ⟨early.stands, fun t mem => (late.stands t mem).append front⟩
  · exact List.forall_mem_append.2
      ⟨fun t mem => (early.inside t mem).trans forward, late.inside⟩
  · refine List.pairwise_append.2 ⟨early.rising, late.rising, fun s left t right => ?_⟩
    exact (s.column_lt_behind (early.legal s left)).trans_le (between s left t right)
  · exact List.pairwise_append.2 ⟨early.apart, late.apart, between⟩
  · intro column c low high here outside
    obtain ⟨outsideFront, outsideRest⟩ := List.forall_mem_append.1 outside
    by_cases near : column < first + front.length
    · exact early.blank column c low near here outsideFront
    · have index : column - first - front.length = column - (first + front.length) := by omega
      rw [List.getElem?_append_right (by omega), index] at here
      exact late.blank column c (by omega) high here outsideRest
  · refine List.forall_mem_append.2 ⟨early.ends, fun t mem => ?_⟩
    rw [drop_append front cs (past t mem)]
    exact late.ends t mem

/-- What tokens cover of a text behind its front, they cover without the front. -/
theorem Covers.of_append (covers : Covers first (front ++ cs) stop (hs ++ ts))
    (fits : first + front.length ≤ stop) (early : ∀ t ∈ hs, t.behind ≤ first + front.length)
    (late : ∀ t ∈ ts, first + front.length ≤ t.column) :
    Covers (first + front.length) cs stop ts := by
  have past : ∀ t ∈ ts, first + front.length ≤ t.behind := by
    intro t mem
    have wide := t.column_lt_behind (covers.legal t (List.mem_append_right hs mem))
    have place := late t mem
    omega
  have mine : ∀ t ∈ ts, t ∈ hs ++ ts := fun t mem => List.mem_append_right hs mem
  refine ⟨fits, fun t mem => covers.legal t (mine t mem), fun t mem => ?_,
    fun t mem => covers.inside t (mine t mem), (List.pairwise_append.1 covers.rising).2.1,
    (List.pairwise_append.1 covers.apart).2.1, ?_, fun t mem => ?_⟩
  · obtain ⟨-, some, there⟩ := covers.stands t (mine t mem)
    rw [drop_append front cs (late t mem)] at there
    exact ⟨late t mem, some, there⟩
  · intro column c low high here outside
    have index : column - first - front.length = column - (first + front.length) := by omega
    refine covers.blank column c (by omega) high ?_ ?_
    · rw [List.getElem?_append_right (by omega), index]
      exact here
    · refine List.forall_mem_append.2 ⟨fun t mem => ?_, outside⟩
      have before := early t mem
      omega
  · have ends := covers.ends t (mine t mem)
    rwa [drop_append front cs (past t mem)] at ends

/-- Tokens that cover nothing are none. -/
theorem Covers.eq_nil (covers : Covers first cs first ts) : ts = [] := by
  refine List.eq_nil_iff_forall_not_mem.2 fun t mem => ?_
  have place := (covers.stands t mem).1
  have wide := t.column_lt_behind (covers.legal t mem)
  have most := covers.inside t mem
  omega

/-- A blank is outside the tokens. -/
theorem Covers.past_blank {c : Char} (covers : Covers first (c :: cs) stop ts)
    (blank : Text.isBlank c = true) : ∀ t ∈ ts, first + 1 ≤ t.column := by
  intro t mem
  obtain ⟨low, -, there⟩ := covers.stands t mem
  by_contra here
  have place : t.column - first = 0 := by omega
  obtain ⟨d, tail, text, solid⟩ := TokenKind.exists_text_eq_cons (covers.legal t mem)
  rw [place, List.drop_zero, text] at there
  obtain ⟨rfl, -⟩ := List.cons_prefix_cons.1 there
  rw [blank] at solid
  cases solid

/-- Any other character that is covered starts the first token. -/
theorem Covers.exists_token {c : Char} (covers : Covers first (c :: cs) stop ts)
    (more : first < stop) (solid : Text.isBlank c = false) :
    ∃ kind rest others, ts = ⟨kind, first⟩ :: others ∧ c :: cs = kind.text.toList ++ rest
      ∧ kind.Ends rest ∧ Covers (first + kind.text.toList.length) rest stop others := by
  have held : ∃ t ∈ ts, t.column ≤ first ∧ first < t.behind := by
    by_contra outside
    have index : (c :: cs)[first - first]? = some c := by rw [Nat.sub_self]; rfl
    have blank := covers.blank first c le_rfl more index
      fun t mem holds => outside ⟨t, mem, holds⟩
    rw [solid] at blank
    cases blank
  obtain ⟨t, mem, low, -⟩ := held
  cases ts with
  | nil => exact absurd mem List.not_mem_nil
  | cons head others =>
    obtain ⟨rising, -⟩ := List.pairwise_cons.1 covers.rising
    obtain ⟨apart, -⟩ := List.pairwise_cons.1 covers.apart
    obtain ⟨kind, column⟩ := head
    obtain ⟨least, -, there⟩ := covers.stands _ List.mem_cons_self
    have place : column = first := by
      rcases List.mem_cons.1 mem with rfl | later
      · exact le_antisymm low least
      · have above := rising t later
        simp only at above least
        omega
    subst place
    rw [Nat.sub_self, List.drop_zero] at there
    obtain ⟨rest, whole⟩ := there
    have whole : c :: cs = kind.text.toList ++ rest := whole.symm
    have behind : Token.behind ⟨kind, column⟩ = column + kind.text.toList.length := by
      rw [Token.behind, String.length_toList]
    have ends := covers.ends _ List.mem_cons_self
    rw [behind, whole, Nat.add_sub_cancel_left, List.drop_left] at ends
    have parts : Covers column (kind.text.toList ++ rest) stop ([⟨kind, column⟩] ++ others) := by
      rw [← whole]
      exact covers
    refine ⟨kind, rest, others, rfl, whole, ends, parts.of_append ?_ ?_ ?_⟩
    · rw [← behind]
      exact covers.inside _ List.mem_cons_self
    · exact List.forall_mem_singleton.2 (Nat.le_of_eq behind)
    · intro t later
      rw [← behind]
      exact apart t later

/-- Reading a text gives the tokens that cover its front, and goes on behind them. -/
theorem Covers.tokensFrom_eq (covers : Covers first cs stop ts)
    (long : stop ≤ first + cs.length) :
    tokensFrom first cs = (tokensFrom stop (cs.drop (stop - first))).map (ts ++ ·) := by
  induction size : stop - first using Nat.strongRecOn generalizing first cs ts with
  | ind size ih =>
    rw [← size]
    rcases Nat.eq_or_lt_of_le covers.forward with rfl | more
    · rw [covers.eq_nil, Nat.sub_self, List.drop_zero]
      cases tokensFrom first cs <;> rfl
    · cases cs with
      | nil =>
        rw [List.length_nil] at long
        omega
      | cons c tail =>
        cases blank : Text.isBlank c with
        | true =>
          rw [List.length_cons] at long
          have parts : Covers first ([c] ++ tail) stop ([] ++ ts) := covers
          have later : Covers (first + 1) tail stop ts :=
            parts.of_append more (List.forall_mem_nil _) (covers.past_blank blank)
          have behind : stop - first = (stop - (first + 1)) + 1 := by omega
          rw [tokensFrom, if_pos blank, ih _ (by omega) later (by omega) rfl, behind,
            List.drop_succ_cons]
        | false =>
          obtain ⟨kind, rest, others, rfl, whole, ends, later⟩ := covers.exists_token more blank
          have legal := covers.legal _ List.mem_cons_self
          have wide := Token.column_lt_behind legal
          have inside := later.forward
          rw [Token.behind, String.length_toList.symm] at wide
          simp only at wide legal
          rw [whole, List.length_append] at long
          rw [whole, tokensFrom_text legal ends, ih _ (by omega) later (by omega) rfl,
            drop_append _ _ inside]
          cases tokensFrom stop _ <;> rfl

theorem tokensFrom_of_covers (covers : Covers first cs (first + cs.length) ts) :
    tokensFrom first cs = .ok ts := by
  rw [covers.tokensFrom_eq le_rfl, Nat.add_sub_cancel_left, List.drop_length, tokensFrom]
  exact congrArg Except.ok (List.append_nil ts)

/-- At a character that starts no token, reading ends. -/
theorem tokensFrom_of_stands {illegal : IllegalCharacter}
    (covers : Covers first cs illegal.column ts) (stands : illegal.Stands first cs) :
    tokensFrom first cs = .error illegal := by
  obtain ⟨low, rest, there, solid, starts⟩ := stands
  have within : illegal.column - first < cs.length := by
    have left := congrArg List.length there
    rw [List.length_drop, List.length_cons] at left
    omega
  rw [covers.tokensFrom_eq (by omega), there, tokensFrom, if_neg (Bool.eq_false_iff.1 solid)]
  split
  · rfl
  · rename_i found
    rw [not_startsToken_iff.1 starts] at found
    cases found

/-- A text is covered by tokens up to its end, or up to a character that starts none. -/
inductive Parted (first : Nat) (cs : List Char) : Prop
  | whole {ts : List Token} (covers : Covers first cs (first + cs.length) ts)
  | broken {ts : List Token} {illegal : IllegalCharacter}
      (covers : Covers first cs illegal.column ts) (stands : illegal.Stands first cs)

theorem Parted.append (early : Covers first (front ++ cs) (first + front.length) hs)
    (late : Parted (first + front.length) cs) : Parted first (front ++ cs) := by
  cases late with
  | @whole ts covers =>
    have both := early.append covers
    rw [Nat.add_assoc, ← List.length_append] at both
    exact .whole both
  | broken covers stands =>
    obtain ⟨low, rest, there, solid, starts⟩ := stands
    refine .broken (early.append covers) ⟨by omega, rest, ?_, solid, starts⟩
    rw [drop_append front cs low]
    exact there

/-- There is no third case. -/
theorem parted (first : Nat) (cs : List Char) : Parted first cs := by
  induction size : cs.length using Nat.strongRecOn generalizing first cs with
  | ind size ih =>
    cases cs with
    | nil => exact .whole (.none first [])
    | cons c tail =>
      rw [List.length_cons] at size
      cases blank : Text.isBlank c with
      | true =>
        have early : Covers first ([c] ++ tail) (first + [c].length) [] :=
          .blanks (List.forall_mem_singleton.2 blank) tail
        exact .append early (ih tail.length (by omega) _ tail rfl)
      | false =>
        by_cases starts : StartsToken (c :: tail)
        · obtain ⟨kind, rest, legal, whole, ends⟩ := starts
          have early := Covers.token (t := ⟨kind, first⟩) legal ends
          have some := TokenKind.text_ne_empty legal
          have wide : 0 < kind.text.toList.length := by
            rw [List.length_pos_iff, ne_eq, String.toList_eq_nil_iff]
            exact some
          have long := congrArg List.length whole
          rw [List.length_cons, List.length_append] at long
          rw [whole]
          rw [Token.behind, ← String.length_toList] at early
          exact .append early (ih rest.length (by omega) _ rest rfl)
        · have here : (c :: tail).drop (first - first) = c :: tail := by
            rw [Nat.sub_self, List.drop_zero]
          have stands : IllegalCharacter.Stands ⟨c, first⟩ first (c :: tail) :=
            ⟨le_rfl, tail, here, blank, starts⟩
          exact .broken (.none first _) stands

end Layout

/-- The texts of the tokens, or that of the character in their place, with their columns. -/
def marks : Except IllegalCharacter (List Token) → List (Nat × String)
  | .ok ts => ts.map fun t => (t.column, t.kind.text)
  | .error illegal => [(illegal.column, String.singleton illegal.char)]

/-- Tokens, and the character that starts none, stand at their columns. -/
theorem standsAt_of_mem_marks {first column : Nat} {cs : List Char} {word : String}
    (mem : (column, word) ∈ marks (tokensFrom first cs)) : StandsAt first cs column word := by
  cases parted first cs with
  | whole covers =>
    rw [tokensFrom_of_covers covers] at mem
    obtain ⟨t, inside, same⟩ := List.mem_map.1 mem
    cases same
    exact covers.stands t inside
  | @broken _ illegal covers stands =>
    rw [tokensFrom_of_stands covers stands] at mem
    cases List.mem_singleton.1 mem
    obtain ⟨low, rest, there, -⟩ := stands
    refine ⟨low, by simp, ?_⟩
    rw [there, String.toList_singleton]
    exact List.prefix_append [illegal.char] rest

/-- The tokens of a text are exactly those that lie in it one behind the other with nothing but
blanks around them, up to its end. If there are none, the text is refused for the first character
outside the tokens before it that is not blank and starts no token, with the column of it. -/
theorem tokens_exact (source : String) :
    (∀ ts, tokens source = .ok ts ↔ Covers 1 source.toList (endColumn source) ts)
    ∧ ∀ illegal, tokens source = .error illegal
      ↔ (∃ ts, Covers 1 source.toList illegal.column ts) ∧ illegal.Stands 1 source.toList := by
  have last : endColumn source = 1 + source.toList.length := by
    rw [endColumn, String.length_toList, Nat.add_comm]
  rw [last, tokens]
  refine ⟨fun ts => ⟨fun read => ?_, tokensFrom_of_covers⟩, fun illegal => ⟨fun failed => ?_, ?_⟩⟩
  · cases parted 1 source.toList with
    | whole covers =>
      rw [tokensFrom_of_covers covers] at read
      rwa [← Except.ok.inj read]
    | broken covers stands =>
      rw [tokensFrom_of_stands covers stands] at read
      cases read
  · cases parted 1 source.toList with
    | whole covers =>
      rw [tokensFrom_of_covers covers] at failed
      cases failed
    | broken covers stands =>
      rw [tokensFrom_of_stands covers stands] at failed
      obtain rfl := Except.error.inj failed
      exact ⟨⟨_, covers⟩, stands⟩
  · rintro ⟨⟨ts, covers⟩, stands⟩
    exact tokensFrom_of_stands covers stands

end RestService.Rule
