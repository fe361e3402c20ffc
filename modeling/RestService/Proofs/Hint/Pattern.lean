import Mathlib.Computability.Language
import RestService.Hint
import RestService.Proofs.Result
import RestService.Proofs.Source.Lines
import RestService.Proofs.Text.Pieces

set_option autoImplicit false

namespace RestService

namespace HintEntry

/-- The characters are those of the pattern, with a text in the place of each star that is not
empty and has no slash. -/
inductive Fills : List Char → List Char → Prop
  | nil : Fills [] []
  | star {word pattern cs : List Char} (some : word ≠ []) (inside : '/' ∉ word)
      (rest : Fills pattern cs) : Fills ('*' :: pattern) (word ++ cs)
  | char {c : Char} {pattern cs : List Char} (plain : c ≠ '*') (rest : Fills pattern cs) :
      Fills (c :: pattern) (c :: cs)

theorem fills_nil_iff {pattern : List Char} : Fills pattern [] ↔ pattern = [] := by
  constructor
  · intro fills
    generalize empty : ([] : List Char) = cs at fills
    cases fills with
    | nil => rfl
    | star some _ _ => exact absurd (List.append_eq_nil_iff.1 empty.symm).1 some
    | char => cases empty
  · rintro rfl
    exact .nil

/-- A star takes in one character more. -/
theorem Fills.lengthen {c : Char} {pattern cs : List Char} (fills : Fills ('*' :: pattern) cs)
    (other : c ≠ '/') : Fills ('*' :: pattern) (c :: cs) := by
  cases fills with
  | @star word _ others _ inside rest =>
    rw [← List.cons_append]
    refine .star (List.cons_ne_nil c word) ?_ rest
    exact mt List.mem_cons.1 (not_or.2 ⟨Ne.symm other, inside⟩)
  | char plain _ => exact absurd rfl plain

/-- The front of a pattern takes in the first character, and what may remain of the pattern takes in
the others. -/
theorem fills_cons_iff {pattern cs : List Char} {c : Char} :
    Fills pattern (c :: cs) ↔ ∃ rest ∈ remaining c pattern, Fills rest cs := by
  constructor
  · intro fills
    generalize whole : c :: cs = text at fills
    cases fills with
    | nil => cases whole
    | @star word pattern others some inside rest =>
      obtain ⟨d, word, rfl⟩ := List.exists_cons_of_ne_nil some
      obtain ⟨rfl, rfl⟩ := List.cons.inj whole
      obtain ⟨other, more⟩ := not_or.1 (mt List.mem_cons.2 inside)
      rw [remaining, if_neg (Ne.symm other)]
      -- the star is done with this character, or it goes on
      cases word with
      | nil => exact ⟨pattern, List.mem_cons_of_mem _ List.mem_cons_self, rest⟩
      | cons e word =>
        exact ⟨'*' :: pattern, List.mem_cons_self, .star (List.cons_ne_nil e word) more rest⟩
    | @char d pattern others plain rest =>
      obtain ⟨rfl, rfl⟩ := List.cons.inj whole
      refine ⟨pattern, ?_, rest⟩
      rw [remaining, if_pos rfl]
      · exact List.mem_cons_self
      · exact plain
  · rintro ⟨rest, mem, fills⟩
    cases pattern with
    | nil => cases mem
    | cons d pattern =>
      by_cases starred : d = '*'
      · subst starred
        rw [remaining] at mem
        split at mem
        · cases mem
        · rename_i other
          rcases List.mem_pair.1 mem with rfl | rfl
          · exact fills.lengthen other
          · have inside : '/' ∉ [c] := mt List.mem_singleton.1 (Ne.symm other)
            have filled := Fills.star (List.cons_ne_nil c []) inside fills
            exact filled
      · rw [remaining] at mem
        · split at mem
          · rename_i same
            obtain rfl := List.mem_singleton.1 mem
            rw [← same]
            exact .char starred fills
          · cases mem
        · exact starred

theorem mem_advance {fresh patterns : List (List Char)} {c : Char} {rest : List Char} :
    rest ∈ advance fresh patterns c
      ↔ (∃ pattern ∈ patterns, rest ∈ remaining c pattern) ∨ (c = '/' ∧ rest ∈ fresh) := by
  unfold advance
  by_cases slash : c = '/'
  · simp [slash, or_comm]
  · simp [slash]

/-- A pattern comes to its end at the end of a text if it was followed from the front or from behind
a slash. -/
theorem nil_mem_foldl_advance {fresh patterns : List (List Char)} {cs : List Char} :
    [] ∈ cs.foldl (advance fresh) patterns
      ↔ (∃ pattern ∈ patterns, Fills pattern cs)
        ∨ ∃ back, Text.Behind '/' cs back ∧ ∃ pattern ∈ fresh, Fills pattern back := by
  induction cs generalizing patterns with
  | nil => simp [fills_nil_iff, Text.not_behind_nil]
  | cons c cs ih =>
    rw [List.foldl_cons, ih]
    simp only [mem_advance, fills_cons_iff, Text.behind_cons_iff]
    constructor
    · rintro (⟨rest, ⟨pattern, mem, remains⟩ | ⟨slash, mem⟩, fills⟩ | ⟨back, behind, found⟩)
      · exact .inl ⟨pattern, mem, rest, remains, fills⟩
      · exact .inr ⟨cs, .inl ⟨slash, rfl⟩, rest, mem, fills⟩
      · exact .inr ⟨back, .inr behind, found⟩
    · rintro (⟨pattern, mem, rest, remains, fills⟩ | ⟨back, ⟨slash, rfl⟩ | behind, found⟩)
      · exact .inl ⟨rest, .inl ⟨pattern, mem, remains⟩, fills⟩
      · obtain ⟨pattern, mem, fills⟩ := found
        exact .inl ⟨pattern, .inr ⟨slash, mem⟩, fills⟩
      · exact .inr ⟨back, behind, found⟩

/-- A pattern is followed from the front of a path and, if it does not start with a slash, from
behind each slash. -/
theorem covers_iff_fills (e : HintEntry) (path : String) :
    e.covers path = true ↔ Fills e.pattern.toList path.toList
      ∨ (e.pattern.toList.head? ≠ some '/'
        ∧ ∃ back, Text.Behind '/' path.toList back ∧ Fills e.pattern.toList back) := by
  rw [covers, List.contains_iff_mem, nil_mem_foldl_advance]
  by_cases anchored : e.pattern.toList.head? = some '/'
  · simp [anchored]
  · simp [anchored]

/-- The text that stands for itself. -/
def literal (text : List Char) : Language Char := {text}

/-- The texts that stand for a star: `[^/]+`. -/
def wild : Language Char := {word | word ≠ [] ∧ '/' ∉ word}

/-- The texts that stand for a pattern: what it says between its stars, with `[^/]+` for each of
them. -/
def body (pattern : List Char) : Language Char :=
  (((Text.pieces '*' pattern).map literal).intersperse wild).prod

theorem mem_literal_iff {text cs : List Char} : cs ∈ literal text ↔ cs = text := Iff.rfl

theorem literal_nil : literal [] = 1 := rfl

theorem literal_cons (c : Char) (text : List Char) :
    literal (c :: text) = literal [c] * literal text := by
  ext cs
  rw [Language.mem_mul]
  constructor
  · rintro rfl
    exact ⟨[c], rfl, text, rfl, rfl⟩
  · rintro ⟨_, rfl, _, rfl, rfl⟩
    rfl

theorem body_nil : body [] = 1 := List.prod_singleton

theorem body_star (pattern : List Char) : body ('*' :: pattern) = wild * body pattern := by
  obtain ⟨first, others, cut⟩ := Text.exists_pieces_eq_cons '*' pattern
  rw [body, body, Text.pieces, if_pos rfl, cut, List.map_cons, List.map_cons,
    List.intersperse_cons_cons, List.prod_cons, List.prod_cons, literal_nil, one_mul]

theorem body_char {c : Char} (plain : c ≠ '*') (pattern : List Char) :
    body (c :: pattern) = literal [c] * body pattern := by
  obtain ⟨first, others, cut⟩ := Text.exists_pieces_eq_cons '*' pattern
  rw [body, body, Text.pieces, if_neg plain, cut, List.map_cons, List.map_cons, literal_cons]
  cases others with
  | nil =>
    rw [List.map_nil, List.intersperse_singleton, List.intersperse_singleton, List.prod_singleton,
      List.prod_singleton]
  | cons second others =>
    simp only [List.map_cons, List.intersperse_cons_cons, List.prod_cons, mul_assoc]

/-- The expression of a pattern stands for the texts that fill it in. -/
theorem mem_body_iff {pattern cs : List Char} : cs ∈ body pattern ↔ Fills pattern cs := by
  constructor
  · intro mem
    induction pattern generalizing cs with
    | nil =>
      rw [body_nil, Language.mem_one] at mem
      rw [mem]
      exact .nil
    | cons c pattern ih =>
      by_cases starred : c = '*'
      · rw [starred, body_star] at mem
        obtain ⟨word, ⟨some, inside⟩, rest, behind, rfl⟩ := Language.mem_mul.1 mem
        rw [starred]
        exact .star some inside (ih behind)
      · rw [body_char starred] at mem
        obtain ⟨word, rfl, rest, behind, rfl⟩ := Language.mem_mul.1 mem
        exact .char starred (ih behind)
  · intro fills
    induction fills with
    | nil =>
      rw [body_nil]
      exact Language.nil_mem_one
    | star some inside _ ih =>
      rw [body_star]
      exact Language.append_mem_mul ⟨some, inside⟩ ih
    | @char c _ _ plain _ ih =>
      rw [body_char plain, ← List.singleton_append]
      exact Language.append_mem_mul (mem_literal_iff.2 rfl) ih

/-- A path is covered just if the expression of the pattern is found in it: `^body$` for a pattern
that starts with a slash, `(?:^|/)body$` for any other one. -/
theorem covers_iff_mem_body (e : HintEntry) (path : String) :
    e.covers path = true ↔ path.toList ∈
      if e.pattern.toList.head? = some '/' then body e.pattern.toList
      else (1 + ⊤ * literal ['/']) * body e.pattern.toList := by
  rw [covers_iff_fills]
  by_cases anchored : e.pattern.toList.head? = some '/'
  · simp [anchored, mem_body_iff]
  · rw [if_neg anchored, add_mul, one_mul, Language.mem_add, mem_body_iff]
    refine or_congr_right ⟨?_, ?_⟩
    · rintro ⟨-, back, ⟨front, whole⟩, fills⟩
      have found : front ++ ['/'] ∈ (⊤ : Language Char) * literal ['/'] :=
        Language.append_mem_mul trivial (mem_literal_iff.2 rfl)
      have split : path.toList = front ++ ['/'] ++ back := by
        rw [whole, List.append_assoc, List.singleton_append]
      rw [split]
      exact Language.append_mem_mul found (mem_body_iff.2 fills)
    · intro mem
      obtain ⟨_, found, back, behind, whole⟩ := Language.mem_mul.1 mem
      obtain ⟨front, -, _, rfl, rfl⟩ := Language.mem_mul.1 found
      refine ⟨anchored, back, ⟨front, ?_⟩, mem_body_iff.1 behind⟩
      rw [← whole, List.append_assoc, List.singleton_append]

theorem Fills.append {pattern others cs more : List Char} (front : Fills pattern cs)
    (back : Fills others more) : Fills (pattern ++ others) (cs ++ more) := by
  induction front with
  | nil => exact back
  | star some inside _ ih =>
    rw [List.append_assoc]
    exact .star some inside ih
  | char plain _ ih => exact .char plain ih

theorem fills_unite {patterns segments : List (List Char)}
    (each : List.Forall₂ Fills patterns segments) :
    Fills (Text.unite '/' patterns) (Text.unite '/' segments) := by
  induction each with
  | nil => exact .nil
  | @cons first segment others rest here later ih =>
    cases later with
    | nil => exact here
    | cons _ _ => exact here.append (.char (by decide) ih)

/-- What fills the front of the first segment leaves the other segments alone. -/
theorem forall₂_pieces_append {front word : List Char} (fills : Fills front word)
    (free : '/' ∉ front) (inside : '/' ∉ word) {pattern cs : List Char}
    (each : List.Forall₂ Fills (Text.pieces '/' pattern) (Text.pieces '/' cs)) :
    List.Forall₂ Fills (Text.pieces '/' (front ++ pattern)) (Text.pieces '/' (word ++ cs)) := by
  obtain ⟨first, others, cut⟩ := Text.exists_pieces_eq_cons '/' pattern
  obtain ⟨segment, rest, cuts⟩ := Text.exists_pieces_eq_cons '/' cs
  rw [cut, cuts] at each
  obtain ⟨here, later⟩ := List.forall₂_cons.1 each
  rw [Text.pieces_append_of_not_mem free cut, Text.pieces_append_of_not_mem inside cuts]
  exact .cons (fills.append here) later

/-- A pattern is filled in segment by segment. -/
theorem fills_iff_pieces {pattern cs : List Char} :
    Fills pattern cs ↔ List.Forall₂ Fills (Text.pieces '/' pattern) (Text.pieces '/' cs) := by
  constructor
  · intro fills
    induction fills with
    | nil => exact .cons .nil .nil
    | @star word _ _ some inside _ ih =>
      have starred : Fills ['*'] word := by
        have only := Fills.star some inside .nil
        rwa [List.append_nil] at only
      exact forall₂_pieces_append starred (by decide) inside ih
    | @char c _ _ plain _ ih =>
      by_cases slash : c = '/'
      · rw [Text.pieces, Text.pieces, if_pos slash, if_pos slash]
        exact .cons .nil ih
      · have free : '/' ∉ [c] := mt List.mem_singleton.1 (Ne.symm slash)
        exact forall₂_pieces_append (.char plain .nil) free free ih
  · intro each
    have united := fills_unite each
    rwa [Text.unite_pieces, Text.unite_pieces] at united

/-- Whether a pattern is one for a path, by their segments: all of them if the pattern starts with a
slash, otherwise the last ones of the path. -/
def Matches (pattern path : String) : Prop :=
  let wanted := Text.pieces '/' pattern.toList
  let segments := Text.pieces '/' path.toList
  (pattern.toList.head? = some '/' ∧ List.Forall₂ Fills wanted segments)
    ∨ (pattern.toList.head? ≠ some '/' ∧ wanted.length ≤ segments.length
      ∧ List.Forall₂ Fills wanted (segments.drop (segments.length - wanted.length)))

/-- What is followed character by character is found segment by segment. -/
theorem covers_iff_matches (e : HintEntry) (path : String) :
    e.covers path = true ↔ Matches e.pattern path := by
  rw [covers_iff_fills, Matches]
  by_cases anchored : e.pattern.toList.head? = some '/'
  · simp [anchored, fills_iff_pieces]
  · simp only [anchored, ne_eq, not_false_eq_true, true_and, false_and, false_or,
      Result.forall₂_drop_iff]
    constructor
    · rintro (fills | ⟨back, behind, fills⟩)
      · exact ⟨_, List.suffix_rfl, fills_iff_pieces.1 fills⟩
      · have ends := (Text.suffix_pieces_iff (Text.pieces_ne_nil '/' back)).2
          (.inr ⟨back, behind, rfl⟩)
        exact ⟨_, ends, fills_iff_pieces.1 fills⟩
    · rintro ⟨last, ends, each⟩
      have some : last ≠ [] := by
        rintro rfl
        exact Text.pieces_ne_nil '/' _ (List.forall₂_nil_right_iff.1 each)
      rcases (Text.suffix_pieces_iff some).1 ends with rfl | ⟨back, behind, rfl⟩
      · exact .inl (fills_iff_pieces.2 each)
      · exact .inr ⟨back, behind, fills_iff_pieces.2 each⟩

end HintEntry

theorem Hint.exists_of_readEntry {line : String} {entry : HintEntry}
    (read : readEntry line = .ok entry) : ∃ pattern directives,
      Text.splitOnce ':' line = some (pattern, directives) ∧ entry.pattern = Text.trim pattern := by
  unfold readEntry at read
  split at read
  · cases read
  · rename_i pattern directives cut
    refine ⟨pattern, directives, cut, ?_⟩
    dsimp only at read
    split at read
    · cases read
    split at read
    · cases read
    split at read <;> cases read
    rfl

namespace Hints

/-- The lines of a source text that hold hints. -/
def lines (source : String) : List String :=
  ((Text.lines source).filter fun line => !isIdleLine line).map Text.trim

/-- Whether the pattern on a line, which is all that comes before its colon, is one for a path. -/
def LineMatches (path line : String) : Prop :=
  ∃ pattern directives, Text.splitOnce ':' line = some (pattern, directives)
    ∧ HintEntry.Matches (Text.trim pattern) path

/-- The entries that are read are those of the lines, one by one. -/
theorem forall₂_of_parse {source : String} {hints : Hints}
    (parsed : Hints.parse source = .ok hints) :
    List.Forall₂ (fun line entry => Hint.readEntry line = .ok entry) (lines source) hints := by
  rw [lines, List.forall₂_map_left_iff]
  exact (lineByLine.accepted source hints).1 parsed

/-- The pattern of an entry is the one on its line. -/
theorem covers_iff_lineMatches {line : String} {entry : HintEntry}
    (read : Hint.readEntry line = .ok entry) (path : String) :
    entry.covers path = true ↔ LineMatches path line := by
  obtain ⟨pattern, directives, cut, same⟩ := Hint.exists_of_readEntry read
  rw [entry.covers_iff_matches, same]
  constructor
  · intro matching
    exact ⟨pattern, directives, cut, matching⟩
  · rintro ⟨other, rest, again, matching⟩
    obtain ⟨rfl, -⟩ := Prod.mk.inj (Option.some.inj (cut.symm.trans again))
    exact matching

section

variable {texts : List String} {hints : Hints}
  (each : List.Forall₂ (fun line entry => Hint.readEntry line = .ok entry) texts hints)
  {path : String}

include each

theorem get?_eq_some_iff {hint : Hint} :
    hints.get? path = some hint ↔ ∃ before line after entry, texts = before ++ line :: after
      ∧ (∀ other ∈ before, ¬LineMatches path other) ∧ LineMatches path line
      ∧ Hint.readEntry line = .ok entry ∧ entry.hint = hint := by
  classical
  have same (line : String) (entry : HintEntry) (read : Hint.readEntry line = .ok entry) :
      decide (LineMatches path line) = entry.covers path := by
    rw [Bool.eq_iff_iff, decide_eq_true_iff, covers_iff_lineMatches read]
  rw [get?, Option.map_eq_some_iff]
  constructor
  · rintro ⟨entry, first, rfl⟩
    obtain ⟨line, here, read⟩ := Result.exists_find?_of_forall₂ each.flip
      (fun entry line read => (same line entry read).symm) first
    obtain ⟨matching, before, after, whole, earlier⟩ := List.find?_eq_some_iff_append.1 here
    refine ⟨before, line, after, entry, whole, fun other mem => ?_, of_decide_eq_true matching,
      read, rfl⟩
    simpa using earlier other mem
  · rintro ⟨before, line, after, entry, whole, earlier, matching, read, rfl⟩
    have here : texts.find? (fun line => decide (LineMatches path line)) = some line :=
      List.find?_eq_some_iff_append.2 ⟨decide_eq_true matching, before, after, whole,
        fun other mem => by simpa using earlier other mem⟩
    obtain ⟨found, first, again⟩ := Result.exists_find?_of_forall₂ each same here
    rw [read] at again
    cases again
    exact ⟨entry, first, rfl⟩

theorem get?_eq_none_iff : hints.get? path = none ↔ ∀ line ∈ texts, ¬LineMatches path line := by
  rw [get?, Option.map_eq_none_iff, List.find?_eq_none]
  constructor
  · intro none line mem matching
    obtain ⟨entry, inside, read⟩ := Result.exists_of_mem_left each mem
    exact none entry inside ((covers_iff_lineMatches read path).2 matching)
  · intro none entry mem covered
    obtain ⟨line, inside, read⟩ := Result.exists_of_mem_right each mem
    exact none line inside ((covers_iff_lineMatches read path).1 covered)

end

/-- The hint for a path is that of the first line whose pattern is one for the path; there is none
if there is no such line. -/
theorem get?_first {source : String} {hints : Hints} (parsed : Hints.parse source = .ok hints)
    (path : String) :
    (∀ hint, hints.get? path = some hint ↔ ∃ before line after entry,
        lines source = before ++ line :: after ∧ (∀ other ∈ before, ¬LineMatches path other)
          ∧ LineMatches path line ∧ Hint.readEntry line = .ok entry ∧ entry.hint = hint)
      ∧ (hints.get? path = none ↔ ∀ line ∈ lines source, ¬LineMatches path line) :=
  ⟨fun _ => get?_eq_some_iff (forall₂_of_parse parsed), get?_eq_none_iff (forall₂_of_parse parsed)⟩

/-- Hints for the reviews and the notes of books. -/
def bookHints : String :=
  "# books\n review: type=first\n/book/review: type=second\n/book/n*e: sequence"

theorem get?_first_book :
    Hints.parse bookHints
        = .ok [⟨"review", ⟨some "first", false⟩⟩, ⟨"/book/review", ⟨some "second", false⟩⟩,
            ⟨"/book/n*e", ⟨none, true⟩⟩]
      ∧ (∃ before line after entry, lines bookHints = before ++ line :: after
          ∧ (∀ other ∈ before, ¬LineMatches "/book/review" other)
          ∧ LineMatches "/book/review" line ∧ Hint.readEntry line = .ok entry
          ∧ entry.hint = ⟨some "first", false⟩)
      ∧ (∃ before line after entry, lines bookHints = before ++ line :: after
          ∧ (∀ other ∈ before, ¬LineMatches "/book/note" other)
          ∧ LineMatches "/book/note" line ∧ Hint.readEntry line = .ok entry
          ∧ entry.hint = ⟨none, true⟩)
      ∧ ∀ line ∈ lines bookHints, ¬LineMatches "/book/preview" line := by
  have parsed : Hints.parse bookHints
      = .ok [⟨"review", ⟨some "first", false⟩⟩, ⟨"/book/review", ⟨some "second", false⟩⟩,
          ⟨"/book/n*e", ⟨none, true⟩⟩] := by decide +kernel
  exact ⟨parsed, ((get?_first parsed _).1 _).1 (by decide),
    ((get?_first parsed _).1 _).1 (by decide), (get?_first parsed _).2.1 (by decide)⟩

end Hints

end RestService
