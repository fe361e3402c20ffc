import RestService.Resource.Value
import RestService.Text.Blank

set_option autoImplicit false

namespace RestService.Rule

/-- The kind of a token, with the text of a name. -/
inductive TokenKind
  | name (s : String)
  | opening
  | closing
  | both
  | backward
  | forward
  | mandatory
  deriving DecidableEq, Repr

def TokenKind.text : TokenKind → String
  | name s => s
  | opening => "("
  | closing => ")"
  | both => "<=>"
  | backward => "<="
  | forward => "=>"
  | mandatory => "*"

/-- A token and the column where it starts; the first column is 1. -/
structure Token where
  kind : TokenKind
  column : Nat
  deriving DecidableEq, Repr

/-- A character at which no token starts, and its column. -/
structure IllegalCharacter where
  char : Char
  column : Nat
  deriving DecidableEq, Repr

/-- ASCII letters, digits and the underscore. -/
def isNameChar (c : Char) : Bool := c.isAlphanum || c == '_'

/-- The kind of the token that the characters start with, and what follows it. -/
def TokenKind.read? : List Char → Option (TokenKind × List Char)
  | '(' :: cs => some (opening, cs)
  | ')' :: cs => some (closing, cs)
  | '*' :: cs => some (mandatory, cs)
  | '<' :: '=' :: '>' :: cs => some (both, cs)
  | '<' :: '=' :: cs => some (backward, cs)
  | '=' :: '>' :: cs => some (forward, cs)
  | '!' :: 't' :: 'y' :: 'p' :: 'e' :: cs =>
    if (cs.head?.map isNameChar).getD false then none else some (name typeKey, cs)
  | c :: cs =>
    if c.isAlpha then
      some (name (String.ofList (c :: cs.takeWhile isNameChar)), cs.dropWhile isNameChar)
    else none
  | [] => none

theorem TokenKind.length_of_read {cs rest : List Char} {kind : TokenKind}
    (found : TokenKind.read? cs = some (kind, rest)) : rest.length < cs.length := by
  have shorter (cs : List Char) : (cs.dropWhile isNameChar).length ≤ cs.length :=
    (List.dropWhile_suffix _).length_le
  unfold TokenKind.read? at found
  split at found <;>
    (try split at found) <;>
    simp only [Option.some.injEq, Prod.mk.injEq, reduceCtorEq] at found <;>
    (obtain ⟨_, rfl⟩ := found; simp only [List.length_cons]; try omega)
  exact Nat.lt_succ_of_le (shorter _)

def tokensFrom (column : Nat) (cs : List Char) : Except IllegalCharacter (List Token) :=
  match cs with
  | [] => .ok []
  | c :: tail =>
    if Text.isBlank c then tokensFrom (column + 1) tail
    else match _found : TokenKind.read? (c :: tail) with
      | none => .error ⟨c, column⟩
      | some (kind, rest) =>
        match tokensFrom (column + ((c :: tail).length - rest.length)) rest with
        | .error illegal => .error illegal
        | .ok tokens => .ok (⟨kind, column⟩ :: tokens)
termination_by cs.length
decreasing_by
  · simp
  · exact TokenKind.length_of_read _found

def tokens (source : String) : Except IllegalCharacter (List Token) := tokensFrom 1 source.toList

end RestService.Rule
