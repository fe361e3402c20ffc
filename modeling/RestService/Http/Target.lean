import RestService.Text.Case
import RestService.Text.Pieces

set_option autoImplicit false

namespace RestService

/-- The parts of a target that tell where a request goes. -/
structure Target where
  path : String
  query? : Option String := none
  deriving DecidableEq, Repr

namespace Target

/-- How many bytes a target may have. -/
def maxLength : Nat := 65534

/-- How many characters a scheme may have. -/
def maxSchemeLength : Nat := 64

def isAuthorityChar (c : Char) : Bool := c.isAlphanum || "!$&'()*+,-.:;=@[]_~".toList.contains c

def isSchemeChar (c : Char) : Bool := c.isAlphanum || "+-.~".toList.contains c

def isPathChar (c : Char) : Bool := 0x20 < c.toNat && !"#<>?`".toList.contains c

def isQueryChar (c : Char) : Bool := 0x20 < c.toNat && !"\"#<>".toList.contains c

/-- What has been seen of an authority. -/
structure AuthorityScan where
  colons : Nat := 0
  opened : Bool := false
  closed : Bool := false
  percent : Bool := false

/-- The scan after one more character; user names may hold what hosts may not. -/
def AuthorityScan.step (s : AuthorityScan) (c : Char) : Option AuthorityScan :=
  if c = ':' then (if 8 ≤ s.colons then none else some { s with colons := s.colons + 1 })
  else if c = '[' then (if s.percent || s.opened then none else some { s with opened := true })
  else if c = ']' then
    if !s.opened || s.closed then none
    else some { s with closed := true, colons := 0, percent := false }
  else if c = '@' then some { s with colons := 0, percent := false }
  else if c = '%' then some { s with percent := true }
  else if isAuthorityChar c then some s
  else none

/-- Whether the characters form an authority; an empty one does. -/
def isAuthority (cs : List Char) : Bool :=
  match cs.foldlM AuthorityScan.step {} with
  | none => false
  | some s => s.opened == s.closed && s.colons ≤ 1 && cs.getLast? != some '@' && !s.percent

/-- Whether an authority ends here. -/
def endsAuthority (c : Char) : Bool := c == '/' || c == '?' || c == '#'

/-- The path and the query that these characters tell; an empty path is a slash. -/
def ofPath? (cs : List Char) : Option Target :=
  let whole := cs.takeWhile (· != '#')
  let path := whole.takeWhile (· != '?')
  let name := if path.isEmpty then "/" else String.ofList path
  if !path.all isPathChar then none
  else match whole.drop path.length with
    | [] => some { path := name }
    | _ :: query => if query.all isQueryChar then some ⟨name, some (String.ofList query)⟩ else none

/-- A scheme at the front, and what follows the two slashes after it. -/
def cutScheme? (cs : List Char) : Option (List Char × List Char) :=
  match Text.cutAt ':' cs with
  | some (scheme, '/' :: '/' :: rest) =>
    if scheme.all isSchemeChar then some (scheme, rest) else none
  | _ => none

def parse? (s : String) : Option Target :=
  if maxLength < s.utf8ByteSize then none
  else match s.toList with
    | [] => none
    | ['*'] => some { path := "*" }
    | '/' :: cs => ofPath? ('/' :: cs)
    | cs =>
      match cutScheme? cs with
      | none => if isAuthority cs then some { path := "" } else none
      | some (scheme, rest) =>
        let authority := rest.takeWhile fun c => !endsAuthority c
        if maxSchemeLength < scheme.length || authority.isEmpty || !isAuthority authority then none
        else ofPath? (rest.drop authority.length)

end Target

end RestService
