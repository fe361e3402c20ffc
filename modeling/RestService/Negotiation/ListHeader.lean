import RestService.SourceError
import RestService.Text.Blank
import RestService.Text.Case

/- List headers such as `Accept`: items between commas, each a value with parameters after
semicolons.

```text
header    := element (',' element)*
element   := blanks | item
item      := token (';' token '=' (token | blanks quoted blanks))*
```

A token is a run of characters other than `,` `;` `=` and `"`, taken without the blanks at its ends.
In a quoted text a backslash stands for the character after it. -/

set_option autoImplicit false

namespace RestService

/-- One item of a list header. -/
structure HeaderItem where
  value : String
  /-- The parameters in the order in which they are written. -/
  params : List (String × String)
  deriving DecidableEq, Repr

def HeaderItem.param? (item : HeaderItem) (name : String) : Option String :=
  item.params.lookup name

namespace ListHeader

/-- What can be wrong with a list header. -/
inductive Problem
  | missingValue
  | missingName
  | missingEquals (name : String)
  | missingParameterValue (name : String)
  | unterminated
  | unexpected (c : Char)
  | unexpectedAfter (c : Char) (name : String)
  deriving DecidableEq, Repr

def Problem.message : Problem → String
  | missingValue => "missing value before parameters"
  | missingName => "missing parameter name"
  | missingEquals name => s!"missing '=' after parameter '{name}'"
  | missingParameterValue name => s!"missing value for parameter '{name}'"
  | unterminated => "unterminated quoted string"
  | unexpected c => s!"unexpected character '{c}'"
  | unexpectedAfter c name => s!"unexpected character '{c}' after parameter '{name}'"

def isSeparator (c : Char) : Bool := c == ',' || c == ';' || c == '=' || c == '"'

/-- The token at the front, without the blanks around it. -/
def token (cs : List Char) : String :=
  String.ofList (Text.trimChars (cs.takeWhile fun c => !isSeparator c))

/-- What follows the token at the front. -/
def afterToken (cs : List Char) : List Char := cs.dropWhile fun c => !isSeparator c

/-- The content of a quoted text whose opening quote has been read, and what follows it. -/
def quotedRest : List Char → Option (List Char × List Char)
  | [] => none
  | '"' :: cs => some ([], cs)
  | ['\\'] => none
  | '\\' :: c :: cs => (quotedRest cs).map fun (content, rest) => (c :: content, rest)
  | c :: cs => (quotedRest cs).map fun (content, rest) => (c :: content, rest)

/-- The value of the parameter `name`, of which the equals sign has been read. -/
def paramValue (name : String) (cs : List Char) : Except Problem (String × List Char) :=
  match Text.trimLeft cs with
  | '"' :: quoted =>
    match quotedRest quoted with
    | some (content, rest) => .ok (String.ofList content, Text.trimLeft rest)
    | none => .error .unterminated
  | cs =>
    if token cs = "" then .error (.missingParameterValue name) else .ok (token cs, afterToken cs)

/-- The parameter after a semicolon. -/
def param (cs : List Char) : Except Problem ((String × String) × List Char) :=
  let cs := Text.trimLeft cs
  let name := token cs
  if name = "" then .error .missingName
  else match afterToken cs with
    | '=' :: cs =>
      match paramValue name cs with
      | .error problem => .error problem
      | .ok (value, rest) =>
        match rest with
        | [] | ',' :: _ | ';' :: _ => .ok ((name, value), rest)
        | c :: _ => .error (.unexpectedAfter c name)
    | _ => .error (.missingEquals name)

theorem length_dropWhile_le {α : Type} (p : α → Bool) (xs : List α) :
    (xs.dropWhile p).length ≤ xs.length :=
  (List.dropWhile_suffix p).length_le

theorem length_trimLeft_le (cs : List Char) : (Text.trimLeft cs).length ≤ cs.length :=
  length_dropWhile_le _ _

theorem length_afterToken_le (cs : List Char) : (afterToken cs).length ≤ cs.length :=
  length_dropWhile_le _ _

theorem length_of_quotedRest {cs content rest : List Char}
    (found : quotedRest cs = some (content, rest)) : rest.length ≤ cs.length := by
  induction cs using quotedRest.induct generalizing content rest with
  | case1 => simp [quotedRest] at found
  | case2 cs => simp only [quotedRest, Option.some.injEq, Prod.mk.injEq] at found; simp [found.2]
  | case3 => simp [quotedRest] at found
  | case4 c cs ih =>
    simp only [quotedRest, Option.map_eq_some_iff] at found
    obtain ⟨⟨inner, tail⟩, h, same⟩ := found
    have := ih h
    simp only [Prod.mk.injEq] at same
    obtain ⟨_, rfl⟩ := same
    simp only [List.length_cons]
    omega
  | case5 c cs notQuote notLone notPair ih =>
    rw [quotedRest] at found
    · simp only [Option.map_eq_some_iff] at found
      obtain ⟨⟨inner, tail⟩, h, same⟩ := found
      have := ih h
      simp only [Prod.mk.injEq] at same
      obtain ⟨_, rfl⟩ := same
      simp only [List.length_cons]
      omega
    all_goals assumption

theorem length_of_paramValue {name value : String} {cs rest : List Char}
    (read : paramValue name cs = .ok (value, rest)) : rest.length ≤ cs.length := by
  have trimmed := length_trimLeft_le cs
  rw [paramValue] at read
  split at read
  · rename_i quoted front
    rw [front] at trimmed
    split at read
    · rename_i content tail found
      have := length_of_quotedRest found
      have := length_trimLeft_le tail
      simp only [Except.ok.injEq, Prod.mk.injEq] at read
      obtain ⟨_, rfl⟩ := read
      simp only [List.length_cons] at trimmed
      omega
    · simp at read
  · split at read
    · simp at read
    · simp only [Except.ok.injEq, Prod.mk.injEq] at read
      obtain ⟨_, rfl⟩ := read
      exact Nat.le_trans (length_afterToken_le _) trimmed

theorem length_of_param {cs rest : List Char} {entry : String × String}
    (read : param cs = .ok (entry, rest)) : rest.length < cs.length := by
  have trimmed := length_trimLeft_le cs
  have front := length_afterToken_le (Text.trimLeft cs)
  simp only [param] at read
  split at read
  · simp at read
  · split at read
    · rename_i after same
      rw [same] at front
      simp only [List.length_cons] at front
      split at read
      · simp at read
      · rename_i value tail valueRead
        have := length_of_paramValue valueRead
        split at read <;>
          simp only [Except.ok.injEq, Prod.mk.injEq, reduceCtorEq] at read <;>
          (obtain ⟨_, rfl⟩ := read; simp only [List.length_cons, List.length_nil] at *; omega)
    · simp at read

/-- The parameters at the front, and what follows them. -/
def params (cs : List Char) : Except Problem (List (String × String) × List Char) :=
  match cs with
  | ';' :: cs =>
    match _h : param cs with
    | .error problem => .error problem
    | .ok (entry, rest) =>
      match params rest with
      | .error problem => .error problem
      | .ok (entries, rest) => .ok (entry :: entries, rest)
  | cs => .ok ([], cs)
termination_by cs.length
decreasing_by
  have := length_of_param _h
  simp only [List.length_cons]
  omega

theorem length_of_params {cs rest : List Char} {entries : List (String × String)}
    (read : params cs = .ok (entries, rest)) : rest.length ≤ cs.length := by
  induction h : cs.length using Nat.strongRecOn generalizing cs entries rest with
  | ind n ih =>
    unfold params at read
    split at read
    · rename_i after
      split at read
      · simp at read
      · rename_i entry tail found
        have shorter := length_of_param found
        simp only [List.length_cons] at h
        split at read
        · simp at read
        · rename_i more last found'
          simp only [Except.ok.injEq, Prod.mk.injEq] at read
          obtain ⟨_, rfl⟩ := read
          have := ih tail.length (by omega) found' rfl
          omega
    · simp only [Except.ok.injEq, Prod.mk.injEq] at read
      exact Nat.le_of_eq (h ▸ congrArg List.length read.2.symm)

def items (cs : List Char) : Except Problem (List HeaderItem) :=
  match _t : Text.trimLeft cs with
  | [] => .ok []
  | ',' :: rest => items rest
  | c :: front =>
    let value := token (c :: front)
    if value = "" then .error .missingValue
    else match _p : params (afterToken (c :: front)) with
      | .error problem => .error problem
      | .ok (entries, []) => .ok [⟨value, entries⟩]
      | .ok (entries, ',' :: rest) =>
        match items rest with
        | .error problem => .error problem
        | .ok others => .ok (⟨value, entries⟩ :: others)
      | .ok (_, other :: _) => .error (.unexpected other)
termination_by cs.length
decreasing_by
  · have := length_trimLeft_le cs
    rw [_t] at this
    simp only [List.length_cons] at this
    omega
  · have trimmed := length_trimLeft_le cs
    have token := length_afterToken_le (c :: front)
    have read := length_of_params _p
    rw [_t] at trimmed
    simp only [List.length_cons] at trimmed token read
    omega

end ListHeader

/-- The item with its value and the names of its parameters in lower case. -/
def HeaderItem.lower (item : HeaderItem) : HeaderItem :=
  ⟨Text.lower item.value, item.params.map fun (name, value) => (Text.lower name, value)⟩

/-- The items of a list header as they are written. -/
def parseListHeader (header : String) : Except SourceError (List HeaderItem) :=
  match ListHeader.items header.toList with
  | .ok items => .ok items
  | .error problem => .error (.header header problem.message)

/-- The items of a list header, values and names of parameters in lower case. -/
def parseListHeaderLower (header : String) : Except SourceError (List HeaderItem) :=
  (parseListHeader header).map (List.map HeaderItem.lower)

end RestService
