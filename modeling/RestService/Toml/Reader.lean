import RestService.Toml.Scalar
import RestService.Toml.Text

set_option autoImplicit false

namespace RestService.TomlTree

abbrev Entries := List (String × TomlTree)

/-- The entries with another value for a key that they have. -/
def setEntry (entries : Entries) (key : String) (tree : TomlTree) : Entries :=
  entries.map fun entry => if entry.1 = key then (key, tree) else entry

/-- The entries after a change of the table at a path below them, whose form the change is told.
Tables that are missing on the path are opened. A key of several parts, unlike a header, leads
through no table that has been declared. -/
def changeAt (isKey : Bool) (change : TableForm → Entries → Except Problem Entries)
    (form : TableForm) (entries : Entries) : List String → Except Problem Entries
  | [] => change form entries
  | key :: path =>
    match entries.lookup key with
    | none => do
      let opened := if isKey then TableForm.dotted else .implied
      let inner ← changeAt isKey change opened [] path
      return entries ++ [(key, .table opened inner)]
    | some (.table form inner) =>
      if form = .inline then .error (.notATable key)
      else if isKey ∧ form = .declared then .error (.duplicateKey key)
      else (changeAt isKey change form inner path).map fun inner =>
        setEntry entries key (.table form inner)
    | some (.tables items) =>
      (changeAt isKey change .declared (items.getLast?.getD []) path).map fun last =>
        setEntry entries key (.tables (items.dropLast ++ [last]))
    | some _ => .error (.notATable key)

/-- The entries with a value under a key. Only tables that keys have opened take keys of several
parts. -/
def addValue (form : TableForm) (entries : Entries) (key : List String) (tree : TomlTree) :
    Except Problem Entries :=
  match key.getLast? with
  | none => .ok entries
  | some name =>
    changeAt true (fun found inner =>
      if (found == .dotted) == key.dropLast.isEmpty || (inner.lookup name).isSome then
        .error (.duplicateKey name)
      else .ok (inner ++ [(name, tree)])) form entries key.dropLast

/-- The entries with a table declared by its header, unless it has been declared before. -/
def declareTable (entries : Entries) (path : List String) : Except Problem Entries :=
  match path.getLast? with
  | none => .ok entries
  | some name =>
    changeAt false (fun _ inner =>
      match inner.lookup name with
      | none => .ok (inner ++ [(name, .table .declared [])])
      | some (.table .implied own) => .ok (setEntry inner name (.table .declared own))
      | some _ => .error (.duplicateKey name)) .declared entries path.dropLast

/-- The entries with one more table of those under a name. -/
def declareItem (entries : Entries) (path : List String) : Except Problem Entries :=
  match path.getLast? with
  | none => .ok entries
  | some name =>
    changeAt false (fun _ inner =>
      match inner.lookup name with
      | none => .ok (inner ++ [(name, .tables [[]])])
      | some (.tables items) => .ok (setEntry inner name (.tables (items ++ [[]])))
      | some _ => .error (.duplicateKey name)) .declared entries path.dropLast

/-- A reader takes a tree from the front and leaves what follows it. -/
abbrev Reader := List Char → Except Problem (TomlTree × List Char)

/-- What follows blanks, line breaks and comments. -/
def skipLines (inComment : Bool) : List Char → Except Problem (List Char)
  | '\r' :: '\n' :: cs => skipLines false cs
  | '\n' :: cs => skipLines false cs
  | c :: cs =>
    if inComment then
      if isPlain c then skipLines true cs else .error (.unexpected c)
    else if isBlank c then skipLines false cs
    else if c = '#' then skipLines true cs
    else .ok (c :: cs)
  | [] => .ok []

def readItems (read : Reader) : Nat → List Char → Except Problem (List TomlTree × List Char)
  | 0, _ => .error .unexpectedEnd
  | bound + 1, cs => do
    match ← skipLines false cs with
    | ']' :: rest => return ([], rest)
    | cs =>
      let (item, rest) ← read cs
      match ← skipLines false rest with
      | ',' :: rest =>
        let (items, rest) ← readItems read bound rest
        return (item :: items, rest)
      | ']' :: rest => return ([item], rest)
      | rest => throw (unexpectedAt rest)

/-- A key and its value, and what follows them. -/
def readPair (read : Reader) (cs : List Char) :
    Except Problem (List String × TomlTree × List Char) := do
  let (key, rest) ← readKey cs
  match rest with
  | '=' :: rest =>
    let (tree, rest) ← read (skipBlanks rest)
    return (key, tree, rest)
  | rest => throw (unexpectedAt rest)

def readEntries (read : Reader) (entries : Entries) :
    Nat → List Char → Except Problem (Entries × List Char)
  | 0, _ => .error .unexpectedEnd
  | bound + 1, cs => do
    let (key, tree, rest) ← readPair read cs
    let entries ← addValue .inline entries key tree
    match skipBlanks rest with
    | ',' :: rest => readEntries read entries bound rest
    | '}' :: rest => return (entries, rest)
    | rest => throw (unexpectedAt rest)

/-- The array whose opening bracket has been read. -/
def readArray (read : Reader) : Reader := fun cs =>
  (readItems read (cs.length + 1) cs).map fun (items, rest) => (.array items, rest)

/-- The table whose opening brace has been read. -/
def readTable (read : Reader) : Reader := fun cs =>
  match skipBlanks cs with
  | '}' :: rest => .ok (.table .inline [], rest)
  | cs =>
    (readEntries read [] (cs.length + 1) cs).map fun (entries, rest) =>
      (.table .inline entries, rest)

/-- The value at the front, where `inner?` reads what lies in arrays and tables, if any more may be
opened. -/
def readWith (inner? : Option Reader) : Reader := fun cs =>
  let nested (opened : Reader → Reader) (cs : List Char) : Except Problem (TomlTree × List Char) :=
    match inner? with
    | some inner => opened inner cs
    | none => .error .tooDeep
  match cs with
  | '[' :: cs => nested readArray cs
  | '{' :: cs => nested readTable cs
  | '"' :: _ | '\'' :: _ => (readText cs).map fun (s, rest) => (.text (String.ofList s), rest)
  | 't' :: 'r' :: 'u' :: 'e' :: rest => .ok (.boolean true, rest)
  | 'f' :: 'a' :: 'l' :: 's' :: 'e' :: rest => .ok (.boolean false, rest)
  | [] => .error .unexpectedEnd
  | cs => readScalar cs

/-- The value at the front, with at most `depth` arrays and tables inside one another. -/
def readValue : Nat → Reader
  | 0 => readWith none
  | depth + 1 => readWith (some (readValue depth))

def endLine (cs : List Char) : Except Problem (List Char) :=
  let rest := match skipBlanks cs with
    | '#' :: comment => comment.dropWhile isPlain
    | cs => cs
  match rest with
  | [] => .ok []
  | '\n' :: rest => .ok rest
  | '\r' :: '\n' :: rest => .ok rest
  | c :: _ => .error (.unexpected c)

/-- A document as far as it has been read: its entries, and the path of the table that lines add to.
-/
structure Progress where
  entries : Entries := []
  path : List String := []

/-- What a header, whose opening bracket has been read, declares. -/
def readHeader (progress : Progress) (cs : List Char) : Except Problem (Progress × List Char) :=
  match cs with
  | '[' :: cs => do
    match ← readKey cs with
    | (path, ']' :: ']' :: rest) => return (⟨← declareItem progress.entries path, path⟩, rest)
    | (_, rest) => throw (unexpectedAt rest)
  | cs => do
    match ← readKey cs with
    | (path, ']' :: rest) => return (⟨← declareTable progress.entries path, path⟩, rest)
    | (_, rest) => throw (unexpectedAt rest)

/-- What a key and its value add to the table of the last header. -/
def readLine (progress : Progress) (cs : List Char) : Except Problem (Progress × List Char) := do
  let (key, tree, rest) ← readPair (readValue maxDepth) cs
  let entries ← changeAt false (fun _ inner => addValue .declared inner key tree) .declared
    progress.entries progress.path
  return ({ progress with entries }, rest)

/-- What the lines of a document add to it. No document has more lines than characters follow, which
`bound` counts. -/
def readLines : Nat → Progress → List Char → Except Problem Progress
  | 0, progress, _ => .ok progress
  | bound + 1, progress, cs => do
    match skipBlanks cs with
    | [] => return progress
    | '[' :: cs =>
      let (progress, rest) ← readHeader progress cs
      readLines bound progress (← endLine rest)
    | c :: cs =>
      if c = '#' ∨ c = '\n' ∨ c = '\r' then readLines bound progress (← endLine (c :: cs))
      else
        let (progress, rest) ← readLine progress (c :: cs)
        readLines bound progress (← endLine rest)

/-- The entries of the document that a text writes. A byte order mark may stand in front. -/
def read (s : String) : Except Problem Entries :=
  let cs := match s.toList with
    | '\ufeff' :: cs => cs
    | cs => cs
  (readLines (cs.length + 1) {} cs).map Progress.entries

end RestService.TomlTree
