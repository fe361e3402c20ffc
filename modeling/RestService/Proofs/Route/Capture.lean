import Mathlib.Data.List.Forall2
import Mathlib.Logic.Relation
import RestService.Proofs.Dict
import RestService.Proofs.Result
import RestService.Proofs.Text.Pieces
import RestService.Route.Pattern

set_option autoImplicit false

namespace RestService.PathPattern

def Segment.name? : Segment → Option String
  | .literal _ => none
  | .variable name => some name

/-- The text that the segment stands for when its variable has its value. -/
def Segment.fill? (vars : Dict String) : Segment → Option String
  | .literal s => some s
  | .variable name => Dict.get? vars name

/-- The segment that a part of a pattern writes. -/
def Segment.ofPart (part : String) : Segment :=
  match variableName? part with
  | none => .literal part
  | some name => .variable name

def names (segments : List Segment) : List String := segments.filterMap Segment.name?

theorem names_append (front back : List Segment) :
    names (front ++ back) = names front ++ names back :=
  List.filterMap_append

theorem names_cons_literal (s : String) (segments : List Segment) :
    names (.literal s :: segments) = names segments := rfl

theorem names_cons_variable (name : String) (segments : List Segment) :
    names (.variable name :: segments) = name :: names segments := rfl

theorem mem_names_iff {segments : List Segment} {name : String} :
    name ∈ names segments ↔ .variable name ∈ segments := by
  rw [names, List.mem_filterMap]
  constructor
  · rintro ⟨segment, mem, named⟩
    cases segment with
    | literal s => cases named
    | «variable» other => exact Option.some.inj named ▸ mem
  · exact fun mem => ⟨_, mem, rfl⟩

section Parts

variable {source : String} {before segments : List Segment} {parts : List String}

/-- Segments are read part by part, unless a variable has no name or that of another one. -/
theorem segmentsAfter_eq_ok_iff (distinct : (names before).Nodup) :
    segmentsAfter source before parts = .ok segments
      ↔ segments = before ++ parts.map Segment.ofPart ∧ "" ∉ names (parts.map Segment.ofPart)
        ∧ (names segments).Nodup := by
  induction parts generalizing before with
  | nil =>
    rw [segmentsAfter, List.map_nil, List.append_nil]
    constructor
    · rintro ⟨⟩
      exact ⟨rfl, List.not_mem_nil, distinct⟩
    · rintro ⟨rfl, -⟩
      rfl
  | cons part parts ih =>
    rw [segmentsAfter, List.map_cons, Segment.ofPart]
    cases variableName? part with
    | none =>
      have same : names (before ++ [.literal part]) = names before := by
        rw [names_append]
        exact List.append_nil _
      simp only [names_cons_literal]
      rw [ih (same ▸ distinct), List.append_assoc, List.singleton_append]
    | some name =>
      simp only [names_cons_variable, List.mem_cons, not_or]
      by_cases unnamed : name = ""
      · simp [unnamed]
      rw [if_neg unnamed]
      by_cases again : .variable name ∈ before
      · rw [if_pos again]
        refine ⟨nofun, ?_⟩
        rintro ⟨rfl, -, apart⟩
        rw [names_append, names_cons_variable] at apart
        exact absurd rfl
          ((List.nodup_append.1 apart).2.2 name (mem_names_iff.2 again) name List.mem_cons_self)
      · have fresh : (names (before ++ [.variable name])).Nodup := by
          rw [names_append]
          exact List.nodup_append.2 ⟨distinct, List.nodup_singleton name, fun _ mem _ single =>
            List.mem_singleton.1 single ▸ ne_of_mem_of_not_mem mem (mt mem_names_iff.1 again)⟩
        rw [if_neg again, ih fresh, List.append_assoc, List.singleton_append]
        simp only [Ne.symm unnamed, not_false_eq_true, true_and]

/-- A pattern has the segments that its parts write. -/
theorem parse_eq_ok_iff {p : PathPattern} :
    parse source = .ok p
      ↔ source.toList.head? = some '/' ∧ p = ⟨source, (split source).map Segment.ofPart⟩
        ∧ "" ∉ names p.segments ∧ (names p.segments).Nodup := by
  rw [parse]
  by_cases absolute : source.toList.head? = some '/'
  · rw [if_pos absolute, Result.map_eq_ok]
    have none : (names []).Nodup := List.nodup_nil
    simp only [segmentsAfter_eq_ok_iff none, List.nil_append, absolute, true_and]
    constructor
    · rintro ⟨_, ⟨rfl, named, distinct⟩, rfl⟩
      exact ⟨rfl, named, distinct⟩
    · rintro ⟨rfl, named, distinct⟩
      exact ⟨_, ⟨rfl, named, distinct⟩, rfl⟩
  · simp [absolute]

end Parts

section Values

variable {start vars : Dict String} {segments : List Segment} {parts : List String}

/-- What is not the name of a variable keeps its value. -/
theorem get?_of_capture (captured : capture start segments parts = some vars) {name : String}
    (other : name ∉ names segments) : Dict.get? vars name = Dict.get? start name := by
  fun_induction capture start segments parts with
  | case1 start =>
    cases captured
    rfl
  | case2 start segments s parts ih => exact ih captured other
  | case3 => cases captured
  | case4 start first segments part parts ih =>
    rw [names_cons_variable, List.mem_cons, not_or] at other
    rw [ih captured other.2, Dict.get?_insert, if_neg other.1]
  | case5 => cases captured

theorem sorted_of_capture (captured : capture start segments parts = some vars)
    (sorted : Dict.Sorted start) : Dict.Sorted vars := by
  fun_induction capture start segments parts with
  | case1 start =>
    cases captured
    exact sorted
  | case2 start segments s parts ih => exact ih captured sorted
  | case3 => cases captured
  | case4 start name segments part parts ih =>
    exact ih captured (Dict.sorted_insert sorted name part)
  | case5 => cases captured

/-- With the values that a match gives, the segments of the pattern are those of the path. -/
theorem fill?_of_capture (captured : capture start segments parts = some vars)
    (distinct : (names segments).Nodup) : segments.map (Segment.fill? vars) = parts.map some := by
  fun_induction capture start segments parts with
  | case1 => rfl
  | case2 start segments s parts ih => exact congrArg _ (ih captured distinct)
  | case3 => cases captured
  | case4 start name segments part parts ih =>
    obtain ⟨fresh, apart⟩ := List.nodup_cons.1 distinct
    have value : Dict.get? vars name = some part := by
      rw [get?_of_capture captured fresh, Dict.get?_insert, if_pos rfl]
    exact congrArg₂ List.cons value (ih captured apart)
  | case5 => cases captured

/-- A path matches if any values make it of the pattern. -/
theorem exists_capture (filled : segments.map (Segment.fill? vars) = parts.map some)
    (start : Dict String) : ∃ found, capture start segments parts = some found := by
  induction segments generalizing start parts with
  | nil =>
    rw [List.map_eq_nil_iff.1 filled.symm]
    exact ⟨start, rfl⟩
  | cons segment segments ih =>
    cases parts with
    | nil => cases filled
    | cons part parts =>
      obtain ⟨here, later⟩ := List.cons.inj filled
      cases segment with
      | literal s =>
        rw [capture, if_pos (Option.some.inj here)]
        exact ih later start
      | «variable» name => exact ih later (Dict.insert start name part)

end Values

/-- The values `vars` turn the pattern into the path: they are values of exactly the variables of
the pattern, and with them its segments are those of the path. -/
structure Captures (p : PathPattern) (path : String) (vars : Dict String) : Prop where
  sorted : Dict.Sorted vars
  domain : ∀ name, name ∈ Dict.keys vars ↔ .variable name ∈ p.segments
  filled : p.segments.map (Segment.fill? vars) = (split path).map some

section Matches

variable {p : PathPattern} {path : String} {vars : Dict String}

theorem Captures.unique {other : Dict String} (captures : p.Captures path vars)
    (too : p.Captures path other) : vars = other := by
  refine Dict.ext captures.sorted too.sorted fun name => ?_
  by_cases mem : .variable name ∈ p.segments
  · exact List.map_inj_left.1 (captures.filled.trans too.filled.symm) _ mem
  · rw [Dict.get?_eq_none_iff.2 (mt (captures.domain name).1 mem),
      Dict.get?_eq_none_iff.2 (mt (too.domain name).1 mem)]

theorem captures_of_matches? (distinct : (names p.segments).Nodup)
    (captured : p.matches? path = some vars) : p.Captures path vars where
  sorted := sorted_of_capture captured List.Pairwise.nil
  domain name := by
    have filled := fill?_of_capture captured distinct
    constructor
    · intro mem
      by_contra other
      have none := get?_of_capture captured (mt mem_names_iff.1 other)
      exact Dict.get?_eq_none_iff.1 none mem
    · intro mem
      have value : Dict.get? vars name ∈ (split path).map some := filled ▸ List.mem_map_of_mem mem
      obtain ⟨part, -, found⟩ := List.mem_map.1 value
      by_contra absent
      rw [Dict.get?_eq_none_iff.2 absent] at found
      cases found
  filled := fill?_of_capture captured distinct

/-- A match gives just the values that turn the pattern into the path. -/
theorem matches?_eq_some_iff (distinct : (names p.segments).Nodup) :
    p.matches? path = some vars ↔ p.Captures path vars := by
  refine ⟨captures_of_matches? distinct, fun captures => ?_⟩
  obtain ⟨found, captured⟩ := exists_capture captures.filled []
  rw [captures.unique (captures_of_matches? distinct captured)]
  exact captured

end Matches

/-- The second path has one slash more: at the front, at the end or beside another one. -/
inductive AddsSlash : String → String → Prop
  | front (path : String) : AddsSlash path ("/" ++ path)
  | back (path : String) : AddsSlash path (path ++ "/")
  | beside (before after : String) : AddsSlash (before ++ "/" ++ after) (before ++ "//" ++ after)

/-- The paths differ only in slashes at the front or at the end, or in how many stand in a row. -/
def SlashesApart : String → String → Prop := Relation.EqvGen AddsSlash

theorem split_append_slash (front back : String) :
    split (front ++ "/" ++ back) = split front ++ split back := by
  have whole : (front ++ "/" ++ back).toList = front.toList ++ '/' :: back.toList := by simp
  rw [split, Text.split, whole, Text.pieces_append_sep, List.map_append, List.filter_append]
  rfl

theorem split_of_addsSlash {path other : String} (adds : AddsSlash path other) :
    split path = split other := by
  have empty : split "" = [] := rfl
  cases adds with
  | front =>
    have first := split_append_slash "" path
    rwa [empty, List.nil_append, String.empty_append, eq_comm] at first
  | back =>
    have last := split_append_slash path ""
    rwa [empty, List.append_nil, String.append_empty, eq_comm] at last
  | beside before after =>
    have double : before ++ "//" ++ after = before ++ "/" ++ "" ++ "/" ++ after := by
      have two : "//" = "/" ++ "/" := rfl
      rw [two, String.append_empty, ← String.append_assoc]
    rw [double, split_append_slash, split_append_slash, split_append_slash, empty, List.append_nil]

theorem split_of_slashesApart {path other : String} (apart : SlashesApart path other) :
    split path = split other := by
  induction apart with
  | rel _ _ adds => exact split_of_addsSlash adds
  | refl => rfl
  | symm _ _ _ ih => exact ih.symm
  | trans _ _ _ _ _ first second => exact first.trans second

/-- Two ways to write a segment of a pattern: the same text, or the same variable once behind a
colon and once in braces. -/
inductive Respelt : String → String → Prop
  | same (part : String) : Respelt part part
  | braced (name : String) : Respelt (":" ++ name) ("\x7b" ++ name ++ "\x7d")
  | unbraced (name : String) : Respelt ("\x7b" ++ name ++ "\x7d") (":" ++ name)

theorem variableName?_colon (name : String) : variableName? (":" ++ name) = some name := by
  have text : (":" ++ name).toList = ':' :: name.toList := by simp
  rw [variableName?, text]
  simp only [String.ofList_toList]

theorem variableName?_braces (name : String) :
    variableName? ("\x7b" ++ name ++ "\x7d") = some name := by
  have text : ("\x7b" ++ name ++ "\x7d").toList = '{' :: (name.toList ++ ['}']) := by simp
  rw [variableName?, text]
  simp only [List.reverse_append, List.reverse_singleton, List.singleton_append,
    List.reverse_reverse, String.ofList_toList]

theorem ofPart_of_respelt {part other : String} (respelt : Respelt part other) :
    Segment.ofPart part = Segment.ofPart other := by
  cases respelt with
  | same => rfl
  | braced name => rw [Segment.ofPart, Segment.ofPart, variableName?_colon, variableName?_braces]
  | unbraced name => rw [Segment.ofPart, Segment.ofPart, variableName?_colon, variableName?_braces]

/-- A pattern with its variables written in another way has the same segments. -/
theorem parse_of_respelt {source other : String} {p : PathPattern} (parsed : parse source = .ok p)
    (absolute : other.toList.head? = some '/')
    (respelt : List.Forall₂ Respelt (split source) (split other)) :
    parse other = .ok ⟨other, p.segments⟩ := by
  obtain ⟨-, rfl, named, distinct⟩ := parse_eq_ok_iff.1 parsed
  have same : (split source).map Segment.ofPart = (split other).map Segment.ofPart := by
    rw [← List.forall₂_eq_eq_eq, List.forall₂_map_left_iff, List.forall₂_map_right_iff]
    exact respelt.imp fun _ _ => ofPart_of_respelt
  exact parse_eq_ok_iff.2 ⟨absolute, congrArg _ same, named, distinct⟩

/-- A pattern matches a path exactly with the values that turn it into the segments of the path, and
there is at most one choice of them; slashes that make no segment do not count, and neither does the
way in which variables are written. -/
theorem matches?_exact {source : String} {p : PathPattern} (parsed : parse source = .ok p)
    (path : String) :
    (∀ vars, p.matches? path = some vars ↔ p.Captures path vars)
      ∧ (∀ vars other, p.Captures path vars → p.Captures path other → vars = other)
      ∧ (∀ other, SlashesApart path other → p.matches? other = p.matches? path)
      ∧ ∀ other : String, other.toList.head? = some '/' →
          List.Forall₂ Respelt (split source) (split other) →
          ∃ q, parse other = .ok q ∧ ∀ path, q.matches? path = p.matches? path := by
  obtain ⟨-, -, -, distinct⟩ := parse_eq_ok_iff.1 parsed
  refine ⟨fun _ => matches?_eq_some_iff distinct, fun _ _ => Captures.unique,
    fun other apart => ?_, fun other absolute respelt => ?_⟩
  · rw [matches?, matches?, split_of_slashesApart apart]
  · exact ⟨_, parse_of_respelt parsed absolute respelt, fun _ => rfl⟩

/-- The pattern of one record, each variable written in its own way. -/
def mixedPattern : PathPattern :=
  ⟨"/api/:collection/{id}", [.literal "api", .variable "collection", .variable "id"]⟩

theorem matches?_exact_mixed :
    parse "/api/:collection/{id}" = .ok mixedPattern
      ∧ mixedPattern.Captures "//api/books/7" [("collection", "books"), ("id", "7")]
      ∧ (∀ vars, mixedPattern.Captures "//api/books/7" vars
          → vars = [("collection", "books"), ("id", "7")])
      ∧ (SlashesApart "//api/books/7" "/api//books/7/"
        ∧ mixedPattern.matches? "/api//books/7/" = mixedPattern.matches? "//api/books/7")
      ∧ "/api/{collection}/:id".toList.head? = some '/'
      ∧ List.Forall₂ Respelt (split "/api/:collection/{id}") (split "/api/{collection}/:id")
      ∧ ∃ q, parse "/api/{collection}/:id" = .ok q
        ∧ ∀ path, q.matches? path = mixedPattern.matches? path := by
  have parsed : parse "/api/:collection/{id}" = .ok mixedPattern := by decide +kernel
  have captures : mixedPattern.Captures "//api/books/7" [("collection", "books"), ("id", "7")] :=
    ((matches?_exact parsed _).1 _).1 (by decide +kernel)
  have apart : SlashesApart "//api/books/7" "/api//books/7/" := by
    have plain : SlashesApart "/api/books/7" "//api/books/7" := .rel _ _ (.front "/api/books/7")
    have wider : SlashesApart "/api/books/7" "/api//books/7" :=
      .rel _ _ (.beside "/api" "books/7")
    exact (plain.symm.trans _ _ _ wider).trans _ _ _ (.rel _ _ (.back "/api//books/7"))
  have respelt : List.Forall₂ Respelt (split "/api/:collection/{id}")
      (split "/api/{collection}/:id") :=
    .cons (.same "api") (.cons (.braced "collection") (.cons (.unbraced "id") .nil))
  exact ⟨parsed, captures, fun vars other => (matches?_exact parsed _).2.1 vars _ other captures,
    ⟨apart, (matches?_exact parsed _).2.2.1 _ apart⟩, by decide, respelt,
    (matches?_exact parsed "").2.2.2 _ (by decide) respelt⟩

end RestService.PathPattern
