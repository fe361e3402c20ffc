import Mathlib.Data.List.Induction
import RestService.Proofs.Result
import RestService.Proofs.Rule.Layout
import RestService.Rule.Parser

set_option autoImplicit false

namespace RestService

open Rule (TokenKind Token Spells)

/-- The kinds of the tokens of a side: the conversions from the outermost to the innermost one, the
field, and what closes them. -/
def RuleSide.flat (s : RuleSide) : List TokenKind :=
  (s.conversions.reverse.flatMap fun c => [.name c.name, .opening])
    ++ .name s.field :: List.replicate s.conversions.length .closing

def Direction.kind : Direction → TokenKind
  | forward => .forward
  | backward => .backward
  | both => .both

theorem Direction.kind_ne_opening (direction : Direction) : direction.kind ≠ .opening := by
  cases direction <;> exact nofun

theorem Direction.text_kind (direction : Direction) : direction.kind.text = direction.text := by
  cases direction <;> rfl

theorem Direction.isLegal_kind (direction : Direction) : direction.kind.IsLegal := by
  cases direction <;> trivial

/-- A blank ends the token of a direction. -/
theorem Direction.ends_kind (direction : Direction) (cs : List Char) :
    direction.kind.Ends (' ' :: cs) := by
  cases direction
  case backward =>
    rintro _ ⟨⟩
    decide
  all_goals trivial

def Rule.flat (r : Rule) : List TokenKind :=
  r.left.flat ++ r.direction.kind :: (r.right.flat ++ if r.mandatory then [.mandatory] else [])

namespace RuleSide

/-- The last conversion stands around all that the others make. -/
theorem flat_concat (field : String) (conversions : List Conversion) (outer : Conversion) :
    flat ⟨field, conversions ++ [outer]⟩
      = .name outer.name :: .opening :: (flat ⟨field, conversions⟩ ++ [.closing]) := by
  simp only [flat, List.reverse_append, List.reverse_singleton, List.flatMap_cons,
    List.cons_append, List.nil_append, List.length_append, List.length_singleton,
    List.replicate_succ', List.append_assoc]

theorem text_concat (field : String) (conversions : List Conversion) (outer : Conversion) :
    text ⟨field, conversions ++ [outer]⟩ = s!"{outer.name}({text ⟨field, conversions⟩})" := by
  rw [text, List.foldl_append]
  rfl

theorem name_mem_flat (s : RuleSide) : .name s.field ∈ s.flat :=
  List.mem_append_right _ List.mem_cons_self

end RuleSide

theorem Conversion.name_of_ofName? {s : String} {c : Conversion} (found : ofName? s = some c) :
    c.name = s := by
  have same := List.find?_some found
  exact eq_of_beq same

/-- A conversion is named as a field may be. -/
theorem Conversion.isLegal_name (c : Conversion) : (TokenKind.name c.name).IsLegal := by
  cases c <;> exact .inr ⟨_, _, rfl, by decide, List.all_eq_true.1 (by decide)⟩

namespace Rule

variable {ts rest : List Token}

/-- What a side was read from are its own tokens. -/
theorem exists_of_readSide {side : RuleSide} (read : readSide ts = .ok (side, rest)) :
    ∃ front, ts = front ++ rest ∧ front.map Token.kind = side.flat := by
  fun_induction readSide ts generalizing side rest
  case case3 outer start next tokens conversion known inner last _ within ih =>
    cases read
    obtain ⟨front, rfl, kinds⟩ := ih within
    refine ⟨⟨.name outer, start⟩ :: ⟨.opening, next⟩ :: (front ++ [⟨.closing, last⟩]), ?_, ?_⟩
    · rw [List.cons_append, List.cons_append, List.append_assoc, List.singleton_append]
    · rw [RuleSide.flat_concat, ← kinds, Conversion.name_of_ofName? known, List.map_cons,
        List.map_cons, List.map_append]
      rfl
  case case6 field column tokens _ =>
    cases read
    exact ⟨[⟨.name field, column⟩], rfl, rfl⟩
  all_goals cases read

/-- A side is read off its own tokens, if no parenthesis opens behind them. -/
theorem readSide_of_flat {side : RuleSide} {front : List Token}
    (kinds : front.map Token.kind = side.flat) (apart : ∀ t ∈ rest.head?, t.kind ≠ .opening) :
    readSide (front ++ rest) = .ok (side, rest) := by
  obtain ⟨field, conversions⟩ := side
  induction conversions using List.reverseRecOn generalizing front rest with
  | nil =>
    obtain ⟨⟨_, column⟩, rfl, rfl⟩ := List.map_eq_singleton_iff.1 kinds
    rw [List.singleton_append, readSide]
    rintro column more rfl
    exact apart _ rfl rfl
  | append_singleton conversions outer ih =>
    -- the outermost conversion is the last of the list and the first of the tokens
    rw [RuleSide.flat_concat] at kinds
    obtain ⟨⟨_, start⟩, _, rfl, rfl, opened⟩ := List.map_eq_cons_iff.1 kinds
    obtain ⟨⟨_, next⟩, _, rfl, rfl, closed⟩ := List.map_eq_cons_iff.1 opened
    obtain ⟨inner, _, rfl, within, closing⟩ := List.map_eq_append_iff.1 closed
    obtain ⟨⟨_, last⟩, rfl, rfl⟩ := List.map_eq_singleton_iff.1 closing
    have read : readSide (inner ++ ⟨.closing, last⟩ :: rest)
        = .ok (⟨field, conversions⟩, ⟨.closing, last⟩ :: rest) := by
      refine ih ?_ within
      rintro _ ⟨⟩
      exact nofun
    rw [List.cons_append, List.cons_append, List.append_assoc, List.singleton_append, readSide,
      Conversion.ofName?_name, read]

theorem readDirection_eq_ok_iff {direction : Direction} :
    readDirection ts = .ok (direction, rest)
      ↔ ∃ column, ts = ⟨direction.kind, column⟩ :: rest := by
  constructor
  · intro read
    unfold readDirection at read
    split at read
    all_goals
      cases read
      try exact ⟨_, rfl⟩
  · rintro ⟨column, rfl⟩
    cases direction <;> rfl

theorem readMandatory_eq_ok_iff {mandatory : Bool} :
    readMandatory ts = .ok mandatory
      ↔ ts.map Token.kind = if mandatory then [.mandatory] else [] := by
  constructor
  · intro read
    unfold readMandatory at read
    split at read
    all_goals
      cases read
      try rfl
  · intro kinds
    cases mandatory with
    | false =>
      rw [List.map_eq_nil_iff.1 kinds]
      rfl
    | true =>
      obtain ⟨⟨_, column⟩, rfl, rfl⟩ := List.map_eq_singleton_iff.1 kinds
      rfl

/-- A rule is read off exactly its own tokens. -/
theorem ofTokens_eq_ok_iff {rule : Rule} :
    ofTokens ts = .ok rule ↔ ts.map Token.kind = rule.flat := by
  constructor
  · intro read
    obtain ⟨⟨left, _⟩, first, read⟩ := Result.bind_eq_ok.1 read
    obtain ⟨⟨direction, _⟩, second, read⟩ := Result.bind_eq_ok.1 read
    obtain ⟨⟨right, last⟩, third, read⟩ := Result.bind_eq_ok.1 read
    obtain ⟨mandatory, fourth, same⟩ := Result.bind_eq_ok.1 read
    obtain rfl := Except.ok.inj same
    obtain ⟨_, rfl, leftKinds⟩ := exists_of_readSide first
    obtain ⟨column, rfl⟩ := readDirection_eq_ok_iff.1 second
    obtain ⟨_, rfl, rightKinds⟩ := exists_of_readSide third
    rw [List.map_append, List.map_cons, List.map_append, leftKinds, rightKinds,
      readMandatory_eq_ok_iff.1 fourth]
    rfl
  · intro kinds
    obtain ⟨left, direction, right, mandatory⟩ := rule
    obtain ⟨front, _, rfl, leftKinds, behind⟩ := List.map_eq_append_iff.1 kinds
    obtain ⟨⟨_, column⟩, _, rfl, rfl, others⟩ := List.map_eq_cons_iff.1 behind
    obtain ⟨back, last, rfl, rightKinds, star⟩ := List.map_eq_append_iff.1 others
    have first : readSide (front ++ ⟨direction.kind, column⟩ :: (back ++ last))
        = .ok (left, ⟨direction.kind, column⟩ :: (back ++ last)) := by
      refine readSide_of_flat leftKinds ?_
      rintro _ ⟨⟩
      exact direction.kind_ne_opening
    have third : readSide (back ++ last) = .ok (right, last) := by
      refine readSide_of_flat rightKinds fun t mem => ?_
      have kind := congrArg List.head? star
      rw [List.head?_map, mem] at kind
      cases mandatory with
      | false => cases kind
      | true =>
        rw [Option.some.inj kind]
        exact nofun
    refine Result.bind_eq_ok.2 ⟨_, first, ?_⟩
    refine Result.bind_eq_ok.2 ⟨_, readDirection_eq_ok_iff.2 ⟨column, rfl⟩, ?_⟩
    refine Result.bind_eq_ok.2 ⟨_, third, ?_⟩
    exact Result.bind_eq_ok.2 ⟨_, readMandatory_eq_ok_iff.2 star, rfl⟩

/-- The text that a problem is about, unless the problem is that the source has ended. -/
def Problem.about? : Problem → Option String
  | illegal c => some (String.singleton c)
  | expectingName found => found.map TokenKind.text
  | expectingDirection found => found.map TokenKind.text
  | expectingClosing found => some found.text
  | unclosed => none
  | unknownConversion name => some name
  | unexpected found => some found.text

/-- The error is about one of the tokens, or about there being no more of them. -/
def Concerns (ts : List Token) (error : ParseError) : Prop :=
  (∃ t ∈ ts, error.1 = some t.column ∧ error.2.about? = some t.kind.text)
    ∨ (error.1 = none ∧ error.2.about? = none)

theorem Concerns.first {t : Token} {problem : Problem} (about : problem.about? = some t.kind.text)
    (ts : List Token) : Concerns (t :: ts) (some t.column, problem) :=
  .inl ⟨t, List.mem_cons_self, rfl, about⟩

theorem Concerns.append {error : ParseError} (front : List Token) (concerns : Concerns ts error) :
    Concerns (front ++ ts) error := by
  rcases concerns with ⟨t, mem, here⟩ | ended
  · exact .inl ⟨t, List.mem_append_right front mem, here⟩
  · exact .inr ended

theorem concerns_of_readSide {error : ParseError} (failed : readSide ts = .error error) :
    Concerns ts error := by
  fun_induction readSide ts
  case case1 outer start next tokens unknown =>
    cases failed
    exact .first rfl _
  case case2 outer start next tokens conversion known error within ih =>
    cases failed
    exact (ih within).append [⟨.name outer, start⟩, ⟨.opening, next⟩]
  case case4 outer start next tokens conversion known inner kind place tail other within _ =>
    cases failed
    obtain ⟨front, rfl, -⟩ := exists_of_readSide within
    have here : Concerns (⟨kind, place⟩ :: tail) (some place, .expectingClosing kind) :=
      .first rfl tail
    exact here.append (⟨.name outer, start⟩ :: ⟨.opening, next⟩ :: front)
  case case5 =>
    cases failed
    exact .inr ⟨rfl, rfl⟩
  case case7 =>
    cases failed
    exact .first rfl _
  case case8 =>
    cases failed
    exact .inr ⟨rfl, rfl⟩
  all_goals cases failed

theorem concerns_of_readDirection {error : ParseError} (failed : readDirection ts = .error error) :
    Concerns ts error := by
  unfold readDirection at failed
  split at failed
  case h_4 =>
    cases failed
    exact .first rfl _
  case h_5 =>
    cases failed
    exact .inr ⟨rfl, rfl⟩
  all_goals cases failed

theorem concerns_of_readMandatory {error : ParseError} (failed : readMandatory ts = .error error) :
    Concerns ts error := by
  unfold readMandatory at failed
  split at failed
  case h_3 star kind place tail =>
    cases failed
    have here : Concerns (⟨kind, place⟩ :: tail) (some place, .unexpected kind) := .first rfl tail
    exact here.append [⟨.mandatory, star⟩]
  case h_4 =>
    cases failed
    exact .first rfl _
  all_goals cases failed

/-- A problem with a rule is one with a token, or with the lack of one. -/
theorem concerns_of_ofTokens {error : ParseError} (failed : ofTokens ts = .error error) :
    Concerns ts error := by
  rcases Result.bind_eq_error.1 failed with first | ⟨⟨left, _⟩, first, behind⟩
  · exact concerns_of_readSide first
  obtain ⟨front, rfl, -⟩ := exists_of_readSide first
  refine Concerns.append front ?_
  rcases Result.bind_eq_error.1 behind with second | ⟨⟨direction, _⟩, second, others⟩
  · exact concerns_of_readDirection second
  obtain ⟨place, rfl⟩ := readDirection_eq_ok_iff.1 second
  refine Concerns.append [_] ?_
  rcases Result.bind_eq_error.1 others with third | ⟨⟨right, last⟩, third, star⟩
  · exact concerns_of_readSide third
  obtain ⟨back, rfl, -⟩ := exists_of_readSide third
  refine Concerns.append back ?_
  rcases Result.bind_eq_error.1 star with fourth | ⟨mandatory, -, done⟩
  · exact concerns_of_readMandatory fourth
  · cases done

theorem read_eq_ok_iff {source : String} {rule : Rule} :
    read source = .ok rule ↔ ∃ ts, tokens source = .ok ts ∧ ts.map Token.kind = rule.flat := by
  unfold read
  cases tokens source with
  | error illegal => simp
  | ok ts =>
    simp only [Except.ok.injEq, exists_eq_left']
    rw [← ofTokens_eq_ok_iff]
    cases ofTokens ts <;> simp

/-- The problem shows at a column of the source: there stands the text that it is about, or there
the source ends. -/
def Problem.ShowsAt (source : String) (column : Nat) (problem : Problem) : Prop :=
  match problem.about? with
  | some word => StandsAt 1 source.toList column word
  | none => column = endColumn source

theorem Problem.ShowsAt.range {source : String} {column : Nat} {problem : Problem}
    (shows : problem.ShowsAt source column) : 1 ≤ column ∧ column ≤ endColumn source := by
  unfold ShowsAt at shows
  split at shows
  · obtain ⟨low, high⟩ := shows.range
    rw [String.length_toList] at high
    exact ⟨low, by rw [endColumn]; omega⟩
  · rw [shows, endColumn]
    exact ⟨Nat.le_add_left 1 _, le_rfl⟩

/-- A problem shows where the text stands that it is about, or at the end of the source. -/
theorem showsAt_of_read {source : String} {column : Nat} {problem : Problem}
    (failed : read source = .error (column, problem)) : problem.ShowsAt source column := by
  have stands : ∀ place word, (place, word) ∈ marks (tokens source) →
      StandsAt 1 source.toList place word := fun _ _ => standsAt_of_mem_marks
  unfold read at failed
  split at failed
  · rename_i illegal scanned
    rw [scanned] at stands
    cases failed
    exact stands illegal.column _ List.mem_cons_self
  · rename_i ts scanned
    rw [scanned] at stands
    split at failed
    · rename_i place? problem parsed
      cases failed
      rcases concerns_of_ofTokens parsed with ⟨t, mem, rfl, about⟩ | ⟨rfl, about⟩
      · rw [Problem.ShowsAt, about]
        exact stands t.column _ (List.mem_map_of_mem mem)
      · rw [Problem.ShowsAt, about]
        rfl
    · cases failed

/-- The text of a side is made of its own tokens. -/
theorem Spells.side {side : RuleSide} (legal : (TokenKind.name side.field).IsLegal)
    {cs : List Char} {kinds : List TokenKind} (ends : ∀ c ∈ cs.head?, isNameChar c = false)
    (rest : Spells cs kinds) : Spells (side.text.toList ++ cs) (side.flat ++ kinds) := by
  obtain ⟨field, conversions⟩ := side
  change (TokenKind.name field).IsLegal at legal
  induction conversions using List.reverseRecOn generalizing cs kinds with
  | nil => exact .token (.name field) legal ends rest
  | append_singleton conversions outer ih =>
    have closed : Spells (')' :: cs) (.closing :: kinds) :=
      .token .closing trivial trivial rest
    have within := ih (by rintro _ ⟨⟩; rfl) closed
    have opened := Spells.token .opening trivial trivial within
    have whole := Spells.token (.name outer.name) outer.isLegal_name (by rintro _ ⟨⟩; rfl) opened
    rw [RuleSide.text_concat, RuleSide.flat_concat]
    simpa [toString, TokenKind.text] using whole

/-- The text of a rule is made of its own tokens. -/
theorem spells_text {rule : Rule} (left : (TokenKind.name rule.left.field).IsLegal)
    (right : (TokenKind.name rule.right.field).IsLegal) : Spells rule.text.toList rule.flat := by
  obtain ⟨first, direction, second, mandatory⟩ := rule
  have star : Spells (if mandatory then " *" else "").toList
      (if mandatory then [.mandatory] else []) := by
    cases mandatory with
    | false => exact .nil
    | true => exact .blank (by decide) (.token .mandatory trivial trivial .nil)
  have apart : ∀ c ∈ (if mandatory then " *" else "").toList.head?, isNameChar c = false := by
    cases mandatory <;> rintro _ ⟨⟩
    rfl
  have others := (Spells.side right apart star).blank (c := ' ') (by decide)
  have arrow := Spells.token direction.kind direction.isLegal_kind (direction.ends_kind _) others
  have whole := Spells.side left (by rintro _ ⟨⟩; rfl) (arrow.blank (c := ' ') (by decide))
  rw [flat, text]
  simpa [toString, direction.text_kind] using whole

theorem parse_eq_ok_iff {source : String} {line : Nat} {rule : Rule} :
    parse source line = .ok rule
      ↔ ∃ ts, tokens source = .ok ts ∧ ts.map Token.kind = rule.flat := by
  rw [← read_eq_ok_iff, parse]
  cases read source <;> simp

/-- The text of a rule that was read is read as the rule. -/
theorem parse_text {source : String} {line : Nat} {rule : Rule}
    (read : parse source line = .ok rule) (number : Nat) : parse rule.text number = .ok rule := by
  have legal := ((exists_tokensFrom_iff 1).1 (parse_eq_ok_iff.1 read)).isLegal
  have left : (TokenKind.name rule.left.field).IsLegal :=
    legal _ (List.mem_append_left _ rule.left.name_mem_flat)
  have right : (TokenKind.name rule.right.field).IsLegal :=
    legal _ (List.mem_append_right _
      (List.mem_cons_of_mem _ (List.mem_append_left _ rule.right.name_mem_flat)))
  exact parse_eq_ok_iff.2 ((exists_tokensFrom_iff 1).2 (spells_text left right))

theorem range_of_parse {source : String} {line : Nat} {error : SourceError}
    (failed : parse source line = .error error) : ∃ column reason,
      error = .rule line column reason ∧ 1 ≤ column ∧ column ≤ source.length + 1 := by
  rw [parse] at failed
  split at failed
  · cases failed
  · rename_i column problem unread
    cases failed
    exact ⟨column, problem.message, rfl, (showsAt_of_read unread).range⟩

/-- Rules are read off exactly the texts of the grammar, the text of a rule among them, and a
problem has a place on the line or just behind it. -/
theorem parse_exact (source : String) (line : Nat) :
    (∀ rule, parse source line = .ok rule
        ↔ ∃ ts, tokens source = .ok ts ∧ ts.map Token.kind = rule.flat)
      ∧ (∀ rule, parse source line = .ok rule → ∀ number, parse rule.text number = .ok rule)
      ∧ ∀ error, parse source line = .error error → ∃ column reason,
          error = .rule line column reason ∧ 1 ≤ column ∧ column ≤ source.length + 1 :=
  ⟨fun _ => parse_eq_ok_iff, fun _ => parse_text, fun _ => range_of_parse⟩

/-- A rule whose field is called as a conversion is. -/
def nested : Rule := ⟨⟨"int", [.str, .int]⟩, .forward, ⟨"!type", []⟩, true⟩

theorem parse_exact_nested :
    parse "int( str(int))=>!type*" 4 = .ok nested
      ∧ (∃ ts, tokens "int( str(int))=>!type*" = .ok ts ∧ ts.map Token.kind = nested.flat)
      ∧ nested.text = "int(str(int)) => !type *" ∧ parse nested.text 1 = .ok nested
      ∧ parse "int(str(int) =>" 3 = .error (.rule 3 14 "expecting ')', found '=>'")
      ∧ ∃ column reason,
          SourceError.rule 3 14 "expecting ')', found '=>'" = .rule 3 column reason
            ∧ 1 ≤ column ∧ column ≤ "int(str(int) =>".length + 1 := by
  have read : parse "int( str(int))=>!type*" 4 = .ok nested := by decide +kernel
  have failed : parse "int(str(int) =>" 3
      = .error (.rule 3 14 "expecting ')', found '=>'") := by decide +kernel
  exact ⟨read, ((parse_exact _ 4).1 nested).1 read, by decide, (parse_exact _ 4).2.1 nested read 1,
    failed, (parse_exact _ 3).2.2 _ failed⟩

end Rule

end RestService
