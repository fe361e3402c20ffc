import RestService.Hint
import RestService.Proofs.Result
import RestService.Proofs.Rule.Grammar

set_option autoImplicit false

namespace RestService

/-- The lines of a source that say something. -/
def significantLines (source : String) : List String :=
  (Text.lines source).filter fun line => !isIdleLine line

section Reading

variable {α ε : Type} (read : String → Except ε α) (place : Nat → ε → SourceError)

/-- What `read` makes of the lines that say something, one by one up to the first problem, which is
put on its line; the first line has the number `first`. -/
def readFrom (first : Nat) : List String → Except SourceError (List α)
  | [] => .ok []
  | line :: lines =>
    if isIdleLine line then readFrom (first + 1) lines
    else do
      let result ← (read line).mapError (place first)
      let results ← readFrom (first + 1) lines
      return result :: results

/-- Numbering the lines first, and dropping those that say nothing, makes no difference. -/
theorem mapM_numbered {step : Nat × String → Except SourceError α}
    (same : ∀ number line, step (number, line) = (read line).mapError (place number))
    (first : Nat) (lines : List String) :
    (((List.range' first lines.length).zip lines).filter fun line => !isIdleLine line.2).mapM step
      = readFrom read place first lines := by
  induction lines generalizing first with
  | nil => rfl
  | cons line lines ih =>
    rw [List.length_cons, List.range'_succ, List.zip_cons_cons, readFrom]
    by_cases idle : isIdleLine line = true
    · rw [List.filter_cons_of_neg (by simp [idle]), if_pos idle, ih]
    · rw [List.filter_cons_of_pos (by simp [idle]), if_neg idle, List.mapM_cons, ih, same]

variable {read place}

/-- The results are those of the lines that say something, in their order. -/
theorem readFrom_eq_ok_iff {first : Nat} {lines : List String} {results : List α} :
    readFrom read place first lines = .ok results
      ↔ List.Forall₂ (fun line result => read line = .ok result)
          (lines.filter fun line => !isIdleLine line) results := by
  induction lines generalizing first results with
  | nil =>
    rw [readFrom, List.filter_nil, List.forall₂_nil_left_iff]
    exact ⟨fun same => (Except.ok.inj same).symm, fun same => same ▸ rfl⟩
  | cons line lines ih =>
    rw [readFrom]
    by_cases idle : isIdleLine line = true
    · rw [if_pos idle, List.filter_cons_of_neg (by simp [idle]), ih]
    · rw [if_neg idle, List.filter_cons_of_pos (by simp [idle]), List.forall₂_cons_left_iff]
      constructor
      · intro done
        obtain ⟨result, here, more⟩ := Result.bind_eq_ok.1 done
        obtain ⟨others, later, whole⟩ := Result.bind_eq_ok.1 more
        exact ⟨result, others, Result.mapError_eq_ok.1 here, ih.1 later,
          (Except.ok.inj whole).symm⟩
      · rintro ⟨result, others, here, later, rfl⟩
        refine Result.bind_eq_ok.2 ⟨result, Result.mapError_eq_ok.2 here, ?_⟩
        exact Result.bind_eq_ok.2 ⟨others, ih.2 later, rfl⟩

variable (read) in
/-- The line with this number is the first of those that say something which `read` does not accept,
and this is its problem. -/
def FirstBad (lines : List String) (number : Nat) (line : String) (problem : ε) : Prop :=
  ∃ before after, lines = before ++ line :: after ∧ number = before.length + 1
    ∧ (∀ earlier ∈ before, isIdleLine earlier = false → ∃ result, read earlier = .ok result)
    ∧ isIdleLine line = false ∧ read line = .error problem

theorem not_firstBad_nil {number : Nat} {line : String} {problem : ε} :
    ¬FirstBad read [] number line problem := by
  rintro ⟨before, after, whole, -⟩
  exact List.append_ne_nil_of_right_ne_nil before (List.cons_ne_nil line after) whole.symm

/-- The first bad line is the first line, or that one is not bad and the first bad line is later. -/
theorem firstBad_cons_iff {first line : String} {lines : List String} {number : Nat} {problem : ε} :
    FirstBad read (first :: lines) number line problem
      ↔ (number = 1 ∧ line = first ∧ isIdleLine first = false ∧ read first = .error problem)
        ∨ ((isIdleLine first = false → ∃ result, read first = .ok result)
          ∧ ∃ later, number = later + 1 ∧ FirstBad read lines later line problem) := by
  constructor
  · rintro ⟨before, after, whole, rfl, passed, busy, failed⟩
    cases before with
    | nil =>
      obtain ⟨rfl, rfl⟩ := List.cons.inj whole
      exact .inl ⟨rfl, rfl, busy, failed⟩
    | cons start before =>
      obtain ⟨rfl, rfl⟩ := List.cons.inj whole
      obtain ⟨here, others⟩ := List.forall_mem_cons.1 passed
      exact .inr ⟨here, _, rfl, before, after, rfl, rfl, others, busy, failed⟩
  · rintro (⟨rfl, rfl, busy, failed⟩ | ⟨here, _, rfl, before, after, rfl, rfl, others, bad⟩)
    · exact ⟨[], lines, rfl, rfl, nofun, busy, failed⟩
    · exact ⟨first :: before, after, rfl, rfl, List.forall_mem_cons.2 ⟨here, others⟩, bad⟩

/-- An error is that of the first line, or that is no bad one and the error comes later. -/
theorem readFrom_cons_eq_error_iff {number : Nat} {first : String} {lines : List String}
    {error : SourceError} :
    readFrom read place number (first :: lines) = .error error
      ↔ (isIdleLine first = false ∧ ∃ problem, read first = .error problem
          ∧ place number problem = error)
        ∨ ((isIdleLine first = false → ∃ result, read first = .ok result)
          ∧ readFrom read place (number + 1) lines = .error error) := by
  rw [readFrom]
  by_cases idle : isIdleLine first = true
  · simp [idle]
  · rw [if_neg idle, Result.bind_eq_error, Result.mapError_eq_error]
    simp only [Result.mapError_eq_ok, Bool.eq_false_iff.2 idle, true_and, true_implies]
    refine or_congr_right ⟨?_, ?_⟩
    · rintro ⟨result, here, behind⟩
      rcases Result.bind_eq_error.1 behind with later | ⟨results, -, done⟩
      · exact ⟨⟨result, here⟩, later⟩
      · cases done
    · rintro ⟨⟨result, here⟩, later⟩
      exact ⟨result, here, Result.bind_eq_error.2 (.inl later)⟩

/-- The error is that of the first bad line; `ahead` lines came before. -/
theorem readFrom_eq_error_iff {ahead : Nat} {lines : List String} {error : SourceError} :
    readFrom read place (ahead + 1) lines = .error error
      ↔ ∃ number line problem, FirstBad read lines number line problem
        ∧ error = place (ahead + number) problem := by
  induction lines generalizing ahead with
  | nil => simp only [readFrom, reduceCtorEq, not_firstBad_nil, false_and, exists_false]
  | cons first lines ih =>
    have shift (later : Nat) : ahead + 1 + later = ahead + (later + 1) := by omega
    simp only [readFrom_cons_eq_error_iff, ih, firstBad_cons_iff]
    constructor
    · rintro (⟨busy, problem, failed, rfl⟩ | ⟨passed, later, line, problem, bad, rfl⟩)
      · exact ⟨1, first, problem, .inl ⟨rfl, rfl, busy, failed⟩, rfl⟩
      · exact ⟨later + 1, line, problem, .inr ⟨passed, later, rfl, bad⟩, by rw [shift]⟩
    · rintro ⟨number, line, problem, ⟨rfl, rfl, busy, failed⟩ | ⟨passed, later, rfl, bad⟩, rfl⟩
      · exact .inl ⟨busy, problem, failed, rfl⟩
      · exact .inr ⟨passed, later, line, problem, bad, by rw [shift]⟩

/-- The second list has the lines of the first one, with lines between them that say nothing. -/
inductive Spaced : List String → List String → Prop
  | nil : Spaced [] []
  | line (line : String) {lines wider : List String} (rest : Spaced lines wider) :
      Spaced (line :: lines) (line :: wider)
  | idle {line : String} {lines wider : List String} (idle : isIdleLine line = true)
      (rest : Spaced lines wider) : Spaced lines (line :: wider)

theorem Spaced.filter_eq {lines wider : List String} (spaced : Spaced lines wider) :
    wider.filter (fun line => !isIdleLine line) = lines.filter fun line => !isIdleLine line := by
  induction spaced with
  | nil => rfl
  | line line _ ih => rw [List.filter_cons, List.filter_cons, ih]
  | idle idle _ ih => rw [List.filter_cons_of_neg (by simp [idle]), ih]

/-- The first bad line stays the first bad one, and is not moved up. -/
theorem Spaced.firstBad {lines wider : List String} (spaced : Spaced lines wider) {number : Nat}
    {line : String} {problem : ε} (bad : FirstBad read lines number line problem) :
    ∃ moved, number ≤ moved ∧ FirstBad read wider moved line problem := by
  induction spaced generalizing number with
  | nil => exact absurd bad not_firstBad_nil
  | line first _ ih =>
    rcases firstBad_cons_iff.1 bad with ⟨rfl, here⟩ | ⟨passed, later, rfl, behind⟩
    · exact ⟨1, le_rfl, firstBad_cons_iff.2 (.inl ⟨rfl, here⟩)⟩
    · obtain ⟨moved, down, still⟩ := ih behind
      exact ⟨moved + 1, Nat.add_le_add_right down 1,
        firstBad_cons_iff.2 (.inr ⟨passed, moved, rfl, still⟩)⟩
  | idle idle _ ih =>
    obtain ⟨moved, down, still⟩ := ih bad
    refine ⟨moved + 1, Nat.le_add_right_of_le down,
      firstBad_cons_iff.2 (.inr ⟨fun busy => ?_, moved, rfl, still⟩)⟩
    exact absurd idle (Bool.eq_false_iff.1 busy)

variable (read place) in
/-- A source is what its lines are, each read by itself: `parse` goes by what `read` makes of the
lines that say something, and puts a problem on its line. -/
structure LineByLine (parse : String → Except SourceError (List α)) : Prop where
  /-- The results are those of the lines, in their order. -/
  accepted (source : String) (results : List α) : parse source = .ok results
    ↔ List.Forall₂ (fun line result => read line = .ok result) (significantLines source) results
  /-- It takes no more than that each line is accepted. -/
  accepts (source : String) : (∃ results, parse source = .ok results)
    ↔ ∀ line ∈ significantLines source, ∃ result, read line = .ok result
  /-- The error is that of the first bad line. -/
  rejected (source : String) (error : SourceError) : parse source = .error error
    ↔ ∃ number line problem, FirstBad read (Text.lines source) number line problem
      ∧ error = place number problem
  /-- Lines that say nothing change no result, and of an error only the number of the line. -/
  spaced (source wider : String) (spaced : Spaced (Text.lines source) (Text.lines wider)) :
    (∀ results, parse wider = .ok results ↔ parse source = .ok results)
      ∧ ∀ number line problem, FirstBad read (Text.lines source) number line problem →
        ∃ moved, number ≤ moved ∧ FirstBad read (Text.lines wider) moved line problem
          ∧ parse source = .error (place number problem)
          ∧ parse wider = .error (place moved problem)

theorem lineByLine_of_readFrom {parse : String → Except SourceError (List α)}
    (same : ∀ source, parse source = readFrom read place 1 (Text.lines source)) :
    LineByLine read place parse := by
  have accepted : ∀ source results, parse source = .ok results
      ↔ List.Forall₂ (fun line result => read line = .ok result) (significantLines source)
        results := by
    intro source results
    rw [same, readFrom_eq_ok_iff, significantLines]
  have rejected : ∀ source error, parse source = .error error
      ↔ ∃ number line problem, FirstBad read (Text.lines source) number line problem
        ∧ error = place number problem := by
    intro source error
    rw [same]
    have whole : readFrom read place (0 + 1) (Text.lines source) = .error error ↔ _ :=
      readFrom_eq_error_iff
    simpa only [Nat.zero_add] using whole
  refine ⟨accepted, fun source => ?_, rejected, fun source wider spaced => ⟨?_, ?_⟩⟩
  · simp only [accepted, Result.exists_forall₂_iff]
  · intro results
    rw [accepted, accepted, significantLines, significantLines, spaced.filter_eq]
  · intro number line problem bad
    obtain ⟨moved, down, still⟩ := spaced.firstBad bad
    exact ⟨moved, down, still, (rejected source _).2 ⟨number, line, problem, bad, rfl⟩,
      (rejected wider _).2 ⟨moved, line, problem, still, rfl⟩⟩

end Reading

def Rule.place (number : Nat) : Nat × Rule.Problem → SourceError
  | (column, problem) => .rule number column problem.message

def Hint.place (number : Nat) (problem : Hint.Problem) : SourceError :=
  .hint number problem.message

/-- A line is read as a hint without the blanks around it. -/
def Hint.readLine (line : String) : Except Hint.Problem HintEntry :=
  Hint.readEntry (Text.trim line)

theorem Rule.parse_eq_mapError (source : String) (number : Nat) :
    Rule.parse source number = (Rule.read source).mapError (Rule.place number) := by
  unfold Rule.parse
  cases Rule.read source <;> rfl

theorem Ruleset.lineByLine : LineByLine Rule.read Rule.place Ruleset.parse :=
  lineByLine_of_readFrom fun source =>
    mapM_numbered Rule.read Rule.place (fun number line => Rule.parse_eq_mapError line number) 1
      (Text.lines source)

theorem Hints.lineByLine : LineByLine Hint.readLine Hint.place Hints.parse := by
  refine lineByLine_of_readFrom fun source => mapM_numbered _ _ (fun number line => ?_) 1 _
  rw [Hint.readLine]
  cases Hint.readEntry (Text.trim line) <;> rfl

/-- Rules and hints are read line by line. The column of a problem with a rule counts the characters
of the whole line, the blanks at its front among them; at the column stands what the problem is
about, or there the line ends. -/
theorem lines_read_alone :
    LineByLine Rule.read Rule.place Ruleset.parse
      ∧ (∀ line column problem, Rule.read line = .error (column, problem) →
          1 ≤ column ∧ column ≤ line.length + 1 ∧ problem.ShowsAt line column)
      ∧ LineByLine Hint.readLine Hint.place Hints.parse := by
  refine ⟨Ruleset.lineByLine, fun line column problem failed => ?_, Hints.lineByLine⟩
  have shows := Rule.showsAt_of_read failed
  exact ⟨shows.range.1, shows.range.2, shows⟩

/-- The second of these rules has a parenthesis where a name should stand. -/
def faultyLines : List String := ["a <=> b", "  c <=> (d)"]

/-- The same with lines between them that say nothing. -/
def spacedLines : List String := ["# rules", "a <=> b", "", "  c <=> (d)"]

theorem lines_read_alone_faulty :
    Ruleset.parse "a <=> b\n  c <=> (d)"
        = .error (.rule 2 9 "expecting field name, found '('")
      ∧ (∃ moved, 2 ≤ moved ∧ Ruleset.parse "# rules\na <=> b\r\n\n  c <=> (d)\n"
        = .error (.rule moved 9 "expecting field name, found '('"))
      ∧ Rule.Problem.ShowsAt "  c <=> (d)" 9 (.expectingName (some .opening))
      ∧ Hints.parse "a: sequence\n\n/b" = .error (.hint 3 "expecting 'path: directives'") := by
  have narrow : Text.lines "a <=> b\n  c <=> (d)" = faultyLines := by decide +kernel
  have wide : Text.lines "# rules\na <=> b\r\n\n  c <=> (d)\n" = spacedLines := by decide +kernel
  have spaced : Spaced faultyLines spacedLines :=
    .idle (by decide) (.line _ (.idle (by decide) (.line _ .nil)))
  have here : Rule.read "  c <=> (d)" = .error (9, .expectingName (some .opening)) := by
    decide +kernel
  have fine : ∀ earlier ∈ ["a <=> b"], isIdleLine earlier = false →
      ∃ rule, Rule.read earlier = .ok rule := by
    simp only [List.mem_singleton, forall_eq]
    exact fun _ => ⟨⟨⟨"a", []⟩, .both, ⟨"b", []⟩, false⟩, by decide +kernel⟩
  have bad : FirstBad Rule.read faultyLines 2 "  c <=> (d)" (9, .expectingName (some .opening)) :=
    ⟨["a <=> b"], [], rfl, rfl, fine, by decide, here⟩
  rw [← narrow] at bad
  rw [← narrow, ← wide] at spaced
  obtain ⟨moved, down, -, first, second⟩ := (lines_read_alone.1.spaced _ _ spaced).2 _ _ _ bad
  refine ⟨first, ⟨moved, down, second⟩, (lines_read_alone.2.1 _ _ _ here).2.2, ?_⟩
  refine (lines_read_alone.2.2.rejected _ _).2 ⟨3, "/b", .missingColon, ?_, rfl⟩
  refine ⟨["a: sequence", ""], [], by decide +kernel, rfl, ?_, by decide, by decide +kernel⟩
  simp only [List.forall_mem_cons, List.not_mem_nil, false_implies, implies_true, and_true]
  refine ⟨fun _ => ⟨⟨"a", { sequence := true }⟩, by decide +kernel⟩, fun busy => ?_⟩
  exact absurd busy (by decide)

end RestService
