import RestService.Decimal.Integer
import RestService.Toml.Tree

set_option autoImplicit false

namespace RestService.TomlTree

/-- The characters of a string, and what follows it. -/
abbrev Quoted := Except Problem (List Char × List Char)

def Quoted.push (c : Char) (q : Quoted) : Quoted := q.map fun (cs, rest) => (c :: cs, rest)

/-- The character for the letter of a short escape. -/
def shortEscape? : Char → Option Char
  | '"' => some '"'
  | '\\' => some '\\'
  | 'b' => some '\x08'
  | 'f' => some '\x0c'
  | 'n' => some '\n'
  | 'r' => some '\r'
  | 't' => some '\t'
  | _ => none

/-- The character with a number in hexadecimal digits. -/
def numbered? (digits : List Char) : Option Char :=
  match Decimal.nat? 16 digits with
  | some n => if n.isValidChar then some (Char.ofNat n) else none
  | none => none

/-- A string in double quotes, the first of which has been read. -/
def readBasic : List Char → Quoted
  | '"' :: cs => .ok ([], cs)
  | '\\' :: 'u' :: a :: b :: c :: d :: cs =>
    match numbered? [a, b, c, d] with
    | some c => (readBasic cs).push c
    | none => .error .illegalEscape
  | '\\' :: 'U' :: a :: b :: c :: d :: e :: f :: g :: h :: cs =>
    match numbered? [a, b, c, d, e, f, g, h] with
    | some c => (readBasic cs).push c
    | none => .error .illegalEscape
  | '\\' :: c :: cs =>
    match shortEscape? c with
    | some c => (readBasic cs).push c
    | none => .error .illegalEscape
  | c :: cs => if isPlain c then (readBasic cs).push c else .error (.unexpected c)
  | [] => .error .unexpectedEnd

/-- A string in single quotes, the first of which has been read. -/
def readLiteral : List Char → Quoted
  | '\'' :: cs => .ok ([], cs)
  | c :: cs => if isPlain c then (readLiteral cs).push c else .error (.unexpected c)
  | [] => .error .unexpectedEnd

def closing (quote : Char) : List Char → List Char × List Char
  | a :: b :: cs =>
    if a = quote then
      if b = quote then ([quote, quote], cs) else ([quote], b :: cs)
    else ([], a :: b :: cs)
  | [a] => if a = quote then ([quote], []) else ([], [a])
  | [] => ([], [])

/-- Whether a line break comes next, after blanks. -/
def breaksLine (cs : List Char) : Bool :=
  match skipBlanks cs with
  | '\n' :: _ => true
  | '\r' :: '\n' :: _ => true
  | _ => false

/-- A string in three double quotes, which have been read. Blanks and line breaks are left out while
`skipping`, that is after a backslash at the end of a line. -/
def readLongBasic (skipping : Bool) : List Char → Quoted
  | '"' :: '"' :: '"' :: cs => .ok (closing '"' cs)
  | '\r' :: '\n' :: cs =>
    if skipping then readLongBasic true cs else (readLongBasic false cs).push '\n'
  | '\n' :: cs => if skipping then readLongBasic true cs else (readLongBasic false cs).push '\n'
  | '\\' :: 'u' :: a :: b :: c :: d :: cs =>
    match numbered? [a, b, c, d] with
    | some c => (readLongBasic false cs).push c
    | none => .error .illegalEscape
  | '\\' :: 'U' :: a :: b :: c :: d :: e :: f :: g :: h :: cs =>
    match numbered? [a, b, c, d, e, f, g, h] with
    | some c => (readLongBasic false cs).push c
    | none => .error .illegalEscape
  | '\\' :: c :: cs =>
    if breaksLine (c :: cs) then readLongBasic true (c :: cs)
    else match shortEscape? c with
      | some c => (readLongBasic false cs).push c
      | none => .error .illegalEscape
  | c :: cs =>
    if skipping && isBlank c then readLongBasic true cs
    else if isPlain c then (readLongBasic false cs).push c
    else .error (.unexpected c)
  | [] => .error .unexpectedEnd

/-- A string in three single quotes, which have been read. -/
def readLongLiteral : List Char → Quoted
  | '\'' :: '\'' :: '\'' :: cs => .ok (closing '\'' cs)
  | '\r' :: '\n' :: cs => (readLongLiteral cs).push '\n'
  | '\n' :: cs => (readLongLiteral cs).push '\n'
  | c :: cs => if isPlain c then (readLongLiteral cs).push c else .error (.unexpected c)
  | [] => .error .unexpectedEnd

def skipBreak : List Char → List Char
  | '\n' :: cs => cs
  | '\r' :: '\n' :: cs => cs
  | cs => cs

/-- The string at the front. A line break right after three quotes does not belong to it. -/
def readText : List Char → Quoted
  | '"' :: '"' :: '"' :: cs => readLongBasic false (skipBreak cs)
  | '"' :: cs => readBasic cs
  | '\'' :: '\'' :: '\'' :: cs => readLongLiteral (skipBreak cs)
  | '\'' :: cs => readLiteral cs
  | cs => .error (unexpectedAt cs)

/-- The characters of keys that need no quotes. -/
def isBare (c : Char) : Bool := c.isAlphanum || c == '-' || c == '_'

/-- One part of a key. -/
def readKeyPart : List Char → Except Problem (String × List Char)
  | '"' :: cs => (readBasic cs).map fun (part, rest) => (String.ofList part, rest)
  | '\'' :: cs => (readLiteral cs).map fun (part, rest) => (String.ofList part, rest)
  | cs =>
    let part := cs.takeWhile isBare
    if part.isEmpty then .error (unexpectedAt cs)
    else .ok (String.ofList part, cs.drop part.length)

def readKeyParts : Nat → List Char → Except Problem (List String × List Char)
  | 0, _ => .error .tooDeep
  | bound + 1, cs => do
    let (part, rest) ← readKeyPart (skipBlanks cs)
    match skipBlanks rest with
    | '.' :: rest =>
      let (parts, rest) ← readKeyParts bound rest
      return (part :: parts, rest)
    | rest => return ([part], rest)

/-- How many parts a key may have, and how many arrays and tables may lie inside one another. -/
def maxDepth : Nat := 79

def readKey (cs : List Char) : Except Problem (List String × List Char) := readKeyParts maxDepth cs

end RestService.TomlTree
