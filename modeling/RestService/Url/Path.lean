import RestService.Text.Case
import RestService.Text.Pieces
import RestService.Url.Basic

set_option autoImplicit false

namespace RestService

/-- The kinds of schemes. -/
inductive SchemeKind
  /-- Files of this host or another one. -/
  | file
  /-- The schemes that look up a host and use a port of their own if none is named. -/
  | network
  | other
  deriving DecidableEq, Repr

def defaultPort? : String → Option Nat
  | "http" | "ws" => some 80
  | "https" | "wss" => some 443
  | "ftp" => some 21
  | _ => none

def SchemeKind.of (scheme : String) : SchemeKind :=
  if scheme = "file" then .file else if (defaultPort? scheme).isSome then .network else .other

/-- Whether a backslash is a slash to the scheme. -/
def SchemeKind.isLenient (kind : SchemeKind) : Bool := kind != .other

namespace UrlPath

def isSlash (lenient : Bool) (c : Char) : Bool := c == '/' || (lenient && c == '\\')

def dotNames : List String := [".", "%2e"]

def dotDotNames : List String := ["..", ".%2e", "%2e.", "%2e%2e"]

/-- A drive letter with a colon, or with a bar in its place. -/
def isDriveLetter : List Char → Bool
  | [c, mark] => c.isAlpha && (mark == ':' || mark == '|')
  | _ => false

def isDrive (name : String) : Bool :=
  isDriveLetter name.toList && name.toList.getLast? == some ':'

/-- Whether a name is a drive letter, a backslash after it or not. -/
def startsWithDriveLetter (name : String) : Bool :=
  isDriveLetter (name.toList.take 2) && ((name.toList.drop 2).head?.map (· == '\\')).getD true

def names : UrlPath → List String
  | opaquePath _ => []
  | segments names => names

/-- Names with a text added to the last one. -/
def extend (names : List String) (text : String) : List String :=
  match names.getLast? with
  | some last => names.dropLast ++ [last ++ text]
  | none => if text = "" then [] else [text]

/-- Names of a path that ends in a slash. -/
def slashed (names : List String) : List String :=
  if names.getLast? = some "" then names else names ++ [""]

/-- Names with the last one emptied, or the root. -/
def directory (names : List String) : List String := names.dropLast ++ [""]

/-- Names with the last one emptied; a file's drive stays. -/
def withoutLast (isFile : Bool) (names : List String) : List String :=
  match names.getLast? with
  | none => []
  | some last => if isFile && isDrive last then names else directory names

/-- The directory above the one that the names stand for. -/
def above (isFile : Bool) (names : List String) : List String :=
  match names.reverse with
  | "" :: name :: _ =>
    withoutLast isFile (if startsWithDriveLetter name then names else names.dropLast)
  | _ => withoutLast isFile names

/-- A path while it is read. -/
structure Draft where
  names : List String
  /-- The first name has been read as a drive letter. -/
  hasDrive : Bool := false
  deriving DecidableEq, Repr

/-- A segment as it is written. -/
def writtenSegment (segment : List Char) : String :=
  String.ofList (Percent.encode Percent.isReservedInPath segment)

/-- The path with one more segment, which a slash follows if `more`. A drive that is the whole path
gets a slash of its own before anything else. -/
def Draft.read (isFile : Bool) (d : Draft) (segment : List Char) (more : Bool) : Draft :=
  let front := match d.names with
    | [name] => if isFile && isDrive name && !segment.isEmpty then [name, ""] else [name]
    | names => names
  let followed (names : List String) : List String := if more then names ++ [""] else names
  let text := writtenSegment segment
  let lowered := Text.lowerAscii text
  if dotDotNames.contains lowered then
    { d with names := if more then slashed (above isFile front) else above isFile front }
  else if dotNames.contains lowered then { d with names := slashed front }
  else if isFile && front == [""] && isDriveLetter segment then
    ⟨followed [String.ofList (segment.take 1 ++ [':'])], true⟩
  else if isFile && front == [""] && isDrive (String.ofList (segment.take 2)) then
    { d with names := followed [String.ofList (segment.take 2), writtenSegment (segment.drop 2)] }
  else { d with names := followed (extend front text) }

def Draft.readAll (isFile : Bool) (d : Draft) : List (List Char) → Draft
  | [] => d
  | [last] => d.read isFile last false
  | segment :: rest => (d.read isFile segment true).readAll isFile rest

/-- The path of `names` and what follows them. Files have no empty names at the front. -/
def readFrom (kind : SchemeKind) (names : List String) (cs : List Char) : Draft :=
  let plain := cs.map fun c => if isSlash kind.isLenient c then '/' else c
  let d := Draft.readAll (kind == .file) ⟨names, false⟩ (Text.pieces '/' plain)
  if kind = .file then
    match d.names.dropWhile (· == "") with
    | [] => { d with names := [""] }
    | solid => { d with names := solid }
  else d

/-- The path that follows an authority; only the lenient schemes have always one. -/
def afterAuthority (kind : SchemeKind) (cs : List Char) : Draft :=
  match cs with
  | [] => ⟨if kind.isLenient then [""] else [], false⟩
  | c :: rest => readFrom kind [""] (if isSlash kind.isLenient c then rest else cs)

end UrlPath

end RestService
