import Mathlib.Data.List.TakeWhile
import RestService.Negotiation.ListHeader
import RestService.Proofs.Text.Blank

set_option autoImplicit false

namespace RestService

namespace ListHeader

/-- A raw token: no character of it separates, and without the blanks at its ends it is `value`,
which is not empty. -/
structure IsToken (cs : List Char) (value : String) : Prop where
  plain : ∀ c ∈ cs, c ∉ [',', ';', '=', '"']
  trimmed : String.ofList (Text.trimChars cs) = value
  nonempty : value ≠ ""

/-- What stands between the quotes of a quoted text, and what it denotes. -/
inductive IsQuoted : List Char → List Char → Prop
  | nil : IsQuoted [] []
  | pair {c : Char} {cs content : List Char} (rest : IsQuoted cs content) :
      IsQuoted ('\\' :: c :: cs) (c :: content)
  | plain {c : Char} {cs content : List Char} (notQuote : c ≠ '"') (notBackslash : c ≠ '\\')
      (rest : IsQuoted cs content) : IsQuoted (c :: cs) (c :: content)

def IsBlanks (cs : List Char) : Prop := ∀ c ∈ cs, Text.isBlank c = true

/-- The value of a parameter. -/
inductive IsValue : List Char → String → Prop
  | token {cs : List Char} {value : String} (token : IsToken cs value) : IsValue cs value
  | quoted {before inside content after : List Char} (left : IsBlanks before)
      (quoted : IsQuoted inside content) (right : IsBlanks after) :
      IsValue (before ++ '"' :: (inside ++ '"' :: after)) (String.ofList content)

/-- Parameters, each after a semicolon. -/
inductive IsParams : List Char → List (String × String) → Prop
  | nil : IsParams [] []
  | cons {nameChars valueChars cs : List Char} {name value : String}
      {entries : List (String × String)} (isName : IsToken nameChars name)
      (isValue : IsValue valueChars value) (rest : IsParams cs entries) :
      IsParams (';' :: (nameChars ++ '=' :: (valueChars ++ cs))) ((name, value) :: entries)

/-- What stands between two commas: blanks, or an item. -/
inductive IsElement : List Char → List HeaderItem → Prop
  | blank {cs : List Char} (blanks : IsBlanks cs) : IsElement cs []
  | item {front back : List Char} {item : HeaderItem} (token : IsToken front item.value)
      (params : IsParams back item.params) : IsElement (front ++ back) [item]

/-- Elements with commas between them, and the items that they denote. -/
inductive Denotes : List Char → List HeaderItem → Prop
  | last {cs : List Char} {items : List HeaderItem} (element : IsElement cs items) :
      Denotes cs items
  | cons {cs rest : List Char} {items others : List HeaderItem} (element : IsElement cs items)
      (more : Denotes rest others) : Denotes (cs ++ ',' :: rest) (items ++ others)

theorem not_mem_separators {c : Char} : c ∉ [',', ';', '=', '"'] ↔ isSeparator c = false := by
  simp [isSeparator, and_assoc]

theorem not_mem_separators_of_isBlank {c : Char} (blank : Text.isBlank c = true) :
    c ∉ [',', ';', '=', '"'] := by
  intro mem
  simp only [List.mem_cons, List.not_mem_nil, or_false] at mem
  rcases mem with rfl | rfl | rfl | rfl <;> cases blank

/-- What may follow a parameter. -/
def Ends (rest : List Char) : Prop := ∀ c ∈ rest.head?, c = ',' ∨ c = ';'

/-- What may follow an item. -/
def Stops (rest : List Char) : Prop := ∀ c ∈ rest.head?, c = ','

theorem Stops.ends {rest : List Char} (stops : Stops rest) : Ends rest :=
  fun c mem => .inl (stops c mem)

theorem Ends.isSeparator {rest : List Char} (ends : Ends rest) :
    ∀ c ∈ rest.head?, isSeparator c = true := by
  intro c mem
  rcases ends c mem with rfl | rfl <;> rfl

section Blanks

theorem trimLeft_append {blanks : List Char} (all : IsBlanks blanks) (cs : List Char) :
    Text.trimLeft (blanks ++ cs) = Text.trimLeft cs :=
  List.dropWhile_append_of_pos all

theorem trimChars_append {blanks : List Char} (all : IsBlanks blanks) (cs : List Char) :
    Text.trimChars (blanks ++ cs) = Text.trimChars cs := by
  rw [Text.trimChars, trimLeft_append all, Text.trimChars]

theorem trimLeft_eq_nil_iff {cs : List Char} : Text.trimLeft cs = [] ↔ IsBlanks cs := by
  rw [Text.trimLeft, List.dropWhile_eq_nil_iff, IsBlanks]

/-- Every text is what trimming leaves of it, with blanks in front. -/
theorem exists_blanks (cs : List Char) :
    ∃ blanks, IsBlanks blanks ∧ cs = blanks ++ Text.trimLeft cs :=
  ⟨cs.takeWhile Text.isBlank, List.all_eq_true.1 List.all_takeWhile,
    List.takeWhile_append_dropWhile.symm⟩

theorem trimLeft_of_ends {rest : List Char} (ends : Ends rest) : Text.trimLeft rest = rest := by
  cases rest with
  | nil => rfl
  | cons c cs => rcases ends c rfl with rfl | rfl <;> exact Text.trimLeft_cons_solid _ cs rfl

end Blanks

section Tokens

variable {front rest cs : List Char} {value : String}

theorem takeWhile_append (plain : ∀ c ∈ front, c ∉ [',', ';', '=', '"'])
    (stop : ∀ c ∈ rest.head?, isSeparator c = true) :
    (front ++ rest).takeWhile (fun c => !isSeparator c) = front
      ∧ afterToken (front ++ rest) = rest := by
  have inside : ∀ c ∈ front, (!isSeparator c) = true := by
    intro c mem
    rw [not_mem_separators.1 (plain c mem)]
    rfl
  refine Text.takeWhile_dropWhile_append inside fun c mem => ?_
  rw [stop c mem]
  rfl

/-- A raw token is read as what it denotes, up to the separator after it. -/
theorem IsToken.read (isToken : IsToken front value)
    (stop : ∀ c ∈ rest.head?, isSeparator c = true) :
    ∃ c cs, Text.trimLeft (front ++ rest) = c :: cs ∧ isSeparator c = false
      ∧ token (c :: cs) = value ∧ afterToken (c :: cs) = rest := by
  obtain ⟨blanks, all, split⟩ := exists_blanks front
  have plain : ∀ c ∈ Text.trimLeft front, c ∉ [',', ';', '=', '"'] := fun c mem =>
    isToken.plain c (split ▸ List.mem_append_right blanks mem)
  have trimmed : Text.trimChars (Text.trimLeft front) = Text.trimChars front := by
    have same := trimChars_append all (Text.trimLeft front)
    rw [← split] at same
    exact same.symm
  have left : Text.trimLeft (front ++ rest) = Text.trimLeft front ++ rest := by
    have solid : Text.trimLeft front ≠ [] := by
      intro none
      apply isToken.nonempty
      rw [← isToken.trimmed, ← trimmed, none]
      rfl
    rw [Text.trimLeft, List.dropWhile_append, if_neg (by simpa [Text.trimLeft] using solid)]
    rfl
  obtain ⟨taken, after⟩ := takeWhile_append plain stop
  have read : token (Text.trimLeft front ++ rest) = value := by
    rw [token, taken, trimmed, isToken.trimmed]
  rw [left]
  cases shape : Text.trimLeft front with
  | nil =>
    rw [shape] at trimmed
    exact absurd (isToken.trimmed.symm.trans (by rw [← trimmed]; rfl)) isToken.nonempty
  | cons c cs =>
    rw [shape] at plain read after
    refine ⟨c, cs ++ rest, rfl, ?_, read, after⟩
    exact not_mem_separators.1 (plain c List.mem_cons_self)

/-- What is read as a token is a raw token that denotes it, with the blanks in front of it. -/
theorem isToken_of_read (nonempty : token (Text.trimLeft cs) ≠ "") :
    ∃ front, cs = front ++ afterToken (Text.trimLeft cs)
      ∧ IsToken front (token (Text.trimLeft cs)) := by
  obtain ⟨blanks, all, split⟩ := exists_blanks cs
  let run := (Text.trimLeft cs).takeWhile fun c => !isSeparator c
  refine ⟨blanks ++ run, ?_, ?_, ?_, nonempty⟩
  · rw [List.append_assoc, afterToken, List.takeWhile_append_dropWhile]
    exact split
  · intro c mem
    rcases List.mem_append.1 mem with blank | inside
    · exact not_mem_separators_of_isBlank (all c blank)
    · exact not_mem_separators.2 (by simpa using List.all_eq_true.1 List.all_takeWhile c inside)
  · rw [trimChars_append all, token]

end Tokens

section Parameters

variable {cs inside content rest : List Char} {name value : String}

theorem quotedRest_of_isQuoted (quoted : IsQuoted inside content) (rest : List Char) :
    quotedRest (inside ++ '"' :: rest) = some (content, rest) := by
  induction quoted with
  | nil => rfl
  | pair _ ih =>
    rw [List.cons_append, List.cons_append, quotedRest, ih]
    rfl
  | plain notQuote notBackslash _ ih =>
    rw [List.cons_append, quotedRest, ih]
    · rfl
    · exact notQuote
    · exact fun backslash => absurd backslash notBackslash
    · exact fun _ _ backslash => absurd backslash notBackslash

theorem isQuoted_of_quotedRest (found : quotedRest cs = some (content, rest)) :
    ∃ inside, cs = inside ++ '"' :: rest ∧ IsQuoted inside content := by
  induction cs using quotedRest.induct generalizing content rest with
  | case1 => simp [quotedRest] at found
  | case2 cs =>
    simp only [quotedRest, Option.some.injEq, Prod.mk.injEq] at found
    obtain ⟨rfl, rfl⟩ := found
    exact ⟨[], rfl, .nil⟩
  | case3 => simp [quotedRest] at found
  | case4 c cs ih =>
    simp only [quotedRest, Option.map_eq_some_iff] at found
    obtain ⟨⟨more, tail⟩, later, same⟩ := found
    cases same
    obtain ⟨inside, split, quoted⟩ := ih later
    exact ⟨'\\' :: c :: inside, by rw [split]; rfl, .pair quoted⟩
  | case5 c cs notQuote notLone notPair ih =>
    rw [quotedRest] at found
    · obtain ⟨⟨more, tail⟩, later, same⟩ := Option.map_eq_some_iff.1 found
      cases same
      obtain ⟨inside, split, quoted⟩ := ih later
      refine ⟨c :: inside, by rw [split]; rfl, .plain notQuote (fun backslash => ?_) quoted⟩
      cases cs with
      | nil => exact notLone backslash rfl
      | cons next cs => exact notPair next cs backslash rfl
    all_goals assumption

theorem paramValue_of_isValue (isValue : IsValue cs value) (ends : Ends rest) :
    paramValue name (cs ++ rest) = .ok (value, rest) := by
  cases isValue with
  | token isToken =>
    obtain ⟨c, tail, front, plain, read, after⟩ := isToken.read ends.isSeparator
    rw [paramValue, front]
    split
    · rename_i quote
      cases quote
      cases plain
    · rw [read, after, if_neg isToken.nonempty]
  | quoted left quoted right =>
    rw [paramValue, List.append_assoc, trimLeft_append left, List.cons_append,
      Text.trimLeft_cons_solid _ _ rfl, List.append_assoc, List.cons_append]
    simp only [quotedRest_of_isQuoted quoted, trimLeft_append right, trimLeft_of_ends ends]

theorem isValue_of_paramValue (read : paramValue name cs = .ok (value, rest)) :
    ∃ front, cs = front ++ rest ∧ IsValue front value := by
  obtain ⟨blanks, all, whole⟩ := exists_blanks cs
  rw [paramValue] at read
  split at read
  · rename_i quoted front
    split at read
    · rename_i content tail found
      cases read
      obtain ⟨inside, same, isQuoted⟩ := isQuoted_of_quotedRest found
      obtain ⟨after, right, last⟩ := exists_blanks tail
      refine ⟨blanks ++ '"' :: (inside ++ '"' :: after), ?_, .quoted all isQuoted right⟩
      rw [whole, front, same]
      simp only [List.append_assoc, List.cons_append]
      rw [← last]
    · cases read
  · split at read
    · cases read
    · rename_i nonempty
      cases read
      obtain ⟨front, same, isToken⟩ := isToken_of_read nonempty
      exact ⟨front, same, .token isToken⟩

theorem param_of_isToken {nameChars valueChars : List Char} (isName : IsToken nameChars name)
    (isValue : IsValue valueChars value) (ends : Ends rest) :
    param (nameChars ++ '=' :: (valueChars ++ rest)) = .ok ((name, value), rest) := by
  have equals : ∀ c ∈ ('=' :: (valueChars ++ rest)).head?, isSeparator c = true := by
    intro c mem
    cases mem
    rfl
  obtain ⟨c, tail, front, -, read, after⟩ := isName.read equals
  simp only [param, front, read, after, if_neg isName.nonempty, paramValue_of_isValue isValue ends]
  cases rest with
  | nil => rfl
  | cons c cs => rcases ends c rfl with rfl | rfl <;> rfl

theorem isToken_of_param {entry : String × String} (read : param cs = .ok (entry, rest)) :
    ∃ nameChars valueChars, cs = nameChars ++ '=' :: (valueChars ++ rest)
      ∧ IsToken nameChars entry.1 ∧ IsValue valueChars entry.2 := by
  simp only [param] at read
  split at read
  · cases read
  · rename_i nonempty
    obtain ⟨nameChars, whole, isName⟩ := isToken_of_read nonempty
    split at read
    · rename_i after equals
      split at read
      · cases read
      · rename_i value tail valueRead
        obtain ⟨valueChars, same, isValue⟩ := isValue_of_paramValue valueRead
        refine ⟨nameChars, valueChars, ?_⟩
        rw [equals, same] at whole
        split at read <;> cases read <;> exact ⟨whole, isName, isValue⟩
    · cases read

theorem IsParams.ends {entries : List (String × String)} (isParams : IsParams cs entries)
    (stops : Stops rest) : Ends (cs ++ rest) := by
  cases isParams with
  | nil => exact stops.ends
  | cons isName isValue more =>
    intro c mem
    cases mem
    exact .inr rfl

theorem params_of_isParams {entries : List (String × String)} (isParams : IsParams cs entries)
    (stops : Stops rest) : params (cs ++ rest) = .ok (entries, rest) := by
  induction isParams with
  | nil =>
    rw [List.nil_append, params]
    intro tail semicolon
    have comma := stops ';' (by rw [semicolon]; rfl)
    cases comma
  | @cons nameChars valueChars cs name value entries isName isValue more ih =>
    have here := param_of_isToken isName isValue (more.ends stops)
    rw [List.cons_append, List.append_assoc, List.cons_append, List.append_assoc, params]
    split
    · rename_i failed
      cases here.symm.trans failed
    · rename_i found
      cases here.symm.trans found
      rw [ih]

theorem isParams_of_params {entries : List (String × String)}
    (read : params cs = .ok (entries, rest)) :
    ∃ front, cs = front ++ rest ∧ IsParams front entries := by
  fun_induction params cs generalizing entries rest with
  | case1 cs problem failed => cases read
  | case2 cs entry tail found problem failed ih => cases read
  | case3 cs entry tail found more last later ih =>
    cases read
    obtain ⟨front, same, isParams⟩ := ih later
    obtain ⟨nameChars, valueChars, whole, isName, isValue⟩ := isToken_of_param found
    refine ⟨_, ?_, .cons isName isValue isParams⟩
    rw [whole, same]
    simp only [List.cons_append, List.append_assoc]
  | case4 cs notSemicolon =>
    cases read
    exact ⟨[], rfl, .nil⟩

end Parameters

section Elements

variable {cs front back rest : List Char} {found : List HeaderItem} {item : HeaderItem}

theorem items_of_blanks (blanks : IsBlanks cs) : items cs = .ok [] := by
  have none := trimLeft_eq_nil_iff.2 blanks
  rw [items]
  split
  · rfl
  all_goals
    rename_i front
    cases none.symm.trans front

theorem items_of_comma (blanks : IsBlanks cs) (rest : List Char) :
    items (cs ++ ',' :: rest) = items rest := by
  have comma : Text.trimLeft (cs ++ ',' :: rest) = ',' :: rest :=
    (trimLeft_append blanks _).trans (Text.trimLeft_cons_solid _ rest rfl)
  rw [items.eq_def (cs ++ ',' :: rest)]
  split
  · rename_i front
    cases comma.symm.trans front
  · rename_i front
    cases comma.symm.trans front
    rfl
  · rename_i c tail other front
    cases comma.symm.trans front
    exact absurd rfl other

/-- An item is read up to the comma after it, or to the end. -/
theorem items_of_item (isToken : IsToken front item.value) (isParams : IsParams back item.params)
    (stops : Stops rest) :
    items (front ++ back ++ rest) = (items rest.tail).map (item :: ·) := by
  obtain ⟨c, tail, start, plain, read, after⟩ :=
    isToken.read (isParams.ends stops).isSeparator
  have entries := params_of_isParams isParams stops
  rw [List.append_assoc, items.eq_def (front ++ (back ++ rest))]
  split
  · rename_i none
    cases start.symm.trans none
  · rename_i comma
    cases start.symm.trans comma
    cases plain
  · rename_i same
    cases start.symm.trans same
    simp only [read, if_neg isToken.nonempty]
    rw [after]
    split
    · rename_i failed
      cases entries.symm.trans failed
    · rename_i last
      cases entries.symm.trans last
      rw [List.tail_nil, items_of_blanks (List.forall_mem_nil _)]
      rfl
    · rename_i more
      cases entries.symm.trans more
      rw [List.tail_cons]
      cases items _ <;> rfl
    · rename_i other notComma more
      cases entries.symm.trans more
      exact absurd (stops _ rfl) notComma

/-- The reader accepts what the grammar derives. -/
theorem items_of_denotes (denotes : Denotes cs found) : items cs = .ok found := by
  induction denotes with
  | last element =>
    cases element with
    | blank blanks => exact items_of_blanks blanks
    | item isToken isParams =>
      have atEnd : Stops [] := fun c mem => (nomatch mem)
      have whole := items_of_item isToken isParams atEnd
      rw [List.append_nil, List.tail_nil, items_of_blanks (List.forall_mem_nil _)] at whole
      exact whole
  | @cons cs rest found others element more ih =>
    cases element with
    | blank blanks =>
      rw [items_of_comma blanks, ih]
      rfl
    | item isToken isParams =>
      have stops : Stops (',' :: rest) := by
        intro c mem
        cases mem
        rfl
      rw [items_of_item isToken isParams stops, List.tail_cons, ih]
      rfl

/-- What is read as an item is one, with what has not been read behind it. -/
theorem exists_item {c : Char} {tail : List Char} {entries : List (String × String)}
    (start : Text.trimLeft cs = c :: tail) (nonempty : token (c :: tail) ≠ "")
    (read : params (afterToken (c :: tail)) = .ok (entries, rest)) :
    ∃ element, cs = element ++ rest ∧ IsElement element [⟨token (c :: tail), entries⟩] := by
  rw [← start] at nonempty read ⊢
  obtain ⟨front, whole, isToken⟩ := isToken_of_read nonempty
  obtain ⟨back, same, isParams⟩ := isParams_of_params read
  refine ⟨front ++ back, ?_, .item isToken isParams⟩
  rw [List.append_assoc, ← same]
  exact whole

/-- The grammar derives what the reader accepts. -/
theorem denotes_of_items (read : items cs = .ok found) : Denotes cs found := by
  fun_induction items cs generalizing found with
  | case1 cs none =>
    cases read
    exact .last (.blank (trimLeft_eq_nil_iff.1 none))
  | case2 cs rest comma ih =>
    obtain ⟨blanks, all, whole⟩ := exists_blanks cs
    rw [whole, comma]
    exact .cons (.blank all) (ih read)
  | case3 => cases read
  | case4 => cases read
  | case5 cs c tail _ start value nonempty entries =>
    rename_i last
    cases read
    obtain ⟨element, whole, isElement⟩ := exists_item start nonempty last
    rw [whole, List.append_nil]
    exact .last isElement
  | case6 => cases read
  | case7 cs c tail _ start value nonempty entries rest comma others more =>
    rename_i ih
    cases read
    obtain ⟨element, whole, isElement⟩ := exists_item start nonempty comma
    rw [whole]
    exact .cons isElement (ih more)
  | case8 => cases read

end Elements

end ListHeader

/-- A list header is read exactly if the grammar derives it, and gives the items that it denotes. In
lower case the outcome is the same up to the case of the values and the names of the parameters. -/
theorem parseListHeader_eq_ok_iff (header : String) (items : List HeaderItem) :
    (parseListHeader header = .ok items ↔ ListHeader.Denotes header.toList items)
      ∧ parseListHeaderLower header = (parseListHeader header).map (List.map fun item =>
          ⟨Text.lower item.value, item.params.map fun entry => (Text.lower entry.1, entry.2)⟩) := by
  refine ⟨?_, rfl⟩
  unfold parseListHeader
  constructor
  · intro read
    split at read
    · rename_i found
      cases read
      exact ListHeader.denotes_of_items found
    · cases read
  · intro denotes
    rw [ListHeader.items_of_denotes denotes]

end RestService
