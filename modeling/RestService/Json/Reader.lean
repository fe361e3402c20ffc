import RestService.Json.Number
import RestService.Json.Text

set_option autoImplicit false

namespace RestService.JsonTree

/-- A reader takes a tree from the front and leaves what follows it. -/
abbrev Reader := List Char → Except Problem (JsonTree × List Char)

def isSpace (c : Char) : Bool := c == ' ' || c == '\t' || c == '\n' || c == '\r'

def skipSpaces (cs : List Char) : List Char := cs.dropWhile isSpace

def unexpectedAt : List Char → Problem
  | [] => .unexpectedEnd
  | c :: _ => .unexpected c

/-- What follows the character `c`, which must come next. -/
def expect (c : Char) (cs : List Char) : Except Problem (List Char) :=
  match skipSpaces cs with
  | first :: rest => if first = c then .ok rest else .error (.unexpected first)
  | [] => .error .unexpectedEnd

/-- The items of an array up to its bracket; there is at least one. No array has more items than
characters follow, which `bound` counts. -/
def readItems (read : Reader) : Nat → List Char → Except Problem (List JsonTree × List Char)
  | 0, _ => .error .unexpectedEnd
  | bound + 1, cs => do
    let (item, rest) ← read cs
    match skipSpaces rest with
    | ',' :: rest =>
      let (items, rest) ← readItems read bound rest
      return (item :: items, rest)
    | ']' :: rest => return ([item], rest)
    | other => throw (unexpectedAt other)

/-- The members of an object up to its brace; there is at least one. -/
def readMembers (read : Reader) :
    Nat → List Char → Except Problem (List (String × JsonTree) × List Char)
  | 0, _ => .error .unexpectedEnd
  | bound + 1, cs => do
    let rest ← expect '"' cs
    let (name, rest) ← readText rest
    let rest ← expect ':' rest
    let (item, rest) ← read rest
    match skipSpaces rest with
    | ',' :: rest =>
      let (members, rest) ← readMembers read bound rest
      return ((name, item) :: members, rest)
    | '}' :: rest => return ([(name, item)], rest)
    | other => throw (unexpectedAt other)

/-- The array whose opening bracket has been read. -/
def readArray (read : Reader) : Reader := fun cs =>
  match skipSpaces cs with
  | ']' :: rest => .ok (.array [], rest)
  | cs => (readItems read cs.length cs).map fun (items, rest) => (.array items, rest)

/-- The object whose opening brace has been read. -/
def readObject (read : Reader) : Reader := fun cs =>
  match skipSpaces cs with
  | '}' :: rest => .ok (.object [], rest)
  | cs =>
    (readMembers read cs.length cs).map fun (members, rest) =>
      (.object (Dict.ofList members), rest)

/-- The tree at the front, where `inner?` reads what lies in arrays and objects, if any more may be
opened. -/
def readWith (inner? : Option Reader) : Reader := fun cs =>
  let nested (opened : Reader → Reader) (cs : List Char) : Except Problem (JsonTree × List Char) :=
    match inner? with
    | some inner => opened inner cs
    | none => .error .tooDeep
  match skipSpaces cs with
  | '[' :: cs => nested readArray cs
  | '{' :: cs => nested readObject cs
  | '"' :: cs => (readText cs).map fun (s, rest) => (.text s, rest)
  | 'n' :: 'u' :: 'l' :: 'l' :: rest => .ok (.null, rest)
  | 't' :: 'r' :: 'u' :: 'e' :: rest => .ok (.bool true, rest)
  | 'f' :: 'a' :: 'l' :: 's' :: 'e' :: rest => .ok (.bool false, rest)
  | [] => .error .unexpectedEnd
  | c :: cs => if c = '-' ∨ c.isDigit then readNumber (c :: cs) else .error (.unexpected c)

/-- The tree at the front, with at most `depth` arrays and objects inside one another. -/
def readTree : Nat → Reader
  | 0 => readWith none
  | depth + 1 => readWith (some (readTree depth))

/-- How many arrays and objects may lie inside one another. -/
def maxDepth : Nat := 127

def read (s : String) : Except Problem JsonTree := do
  let (tree, rest) ← readTree maxDepth s.toList
  match skipSpaces rest with
  | [] => return tree
  | c :: _ => throw (.unexpected c)

end RestService.JsonTree
