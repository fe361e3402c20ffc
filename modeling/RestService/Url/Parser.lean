import RestService.Url.Path

set_option autoImplicit false

namespace RestService.Url

/-- Slashes and backslashes. -/
def isAnySlash : Char → Bool := UrlPath.isSlash true

def tidied (s : String) : List Char :=
  let outer (c : Char) : Bool := c.toNat ≤ 0x20
  ((s.toList.dropWhile outer).reverse.dropWhile outer).reverse.filter fun c =>
    c != '\t' && c != '\n' && c != '\r'

/-- The characters before the first `mark`, and those after it, if it occurs. -/
def cutTail (mark : Char) (cs : List Char) : List Char × Option (List Char) :=
  match Text.cutAt mark cs with
  | some (front, tail) => (front, some tail)
  | none => (cs, none)

/-- A text cut at the marks of its query and its fragment. -/
structure Reference where
  front : List Char
  query? : Option (List Char)
  fragment? : Option (List Char)
  deriving DecidableEq, Repr

def Reference.of (cs : List Char) : Reference :=
  let (whole, fragment?) := cutTail '#' cs
  let (front, query?) := cutTail '?' whole
  ⟨front, query?, fragment?⟩

/-- Whether neither a query nor a fragment follows. -/
def Reference.isBare (r : Reference) : Bool := r.query?.isNone && r.fragment?.isNone

def Reference.cutScheme? (r : Reference) : Option (String × Reference) :=
  match Text.cutAt ':' r.front with
  | some (c :: scheme, rest) =>
    if c.isAlpha && scheme.all (fun c => c.isAlphanum || "+-.".toList.contains c) then
      some (Text.lowerAscii (String.ofList (c :: scheme)), { r with front := rest })
    else none
  | _ => none

/-- The last at sign of an authority cuts off what names the user. -/
def cutUserinfo (authority : List Char) : Option (List Char) × List Char :=
  let host := (authority.reverse.takeWhile (· != '@')).reverse
  if host.length = authority.length then (none, authority)
  else (some (authority.take (authority.length - host.length - 1)), host)

/-- The host at the front of the rest of an authority, up to a colon outside of brackets, and what
follows it. -/
def cutHost (inBrackets : Bool) : List Char → List Char × List Char
  | [] => ([], [])
  | c :: cs =>
    if c = ':' ∧ !inBrackets then ([], c :: cs)
    else
      let inBrackets := if c = '[' then true else if c = ']' then false else inBrackets
      let (host, rest) := cutHost inBrackets cs
      (c :: host, rest)

/-- The port that follows a host; the default one is not kept. -/
def portOf (scheme : String) : List Char → Except UrlError (Option Nat)
  | [] | [':'] => .ok none
  | _ :: digits =>
    match Decimal.nat? 10 digits with
    | none => .error .illegalPort
    | some port =>
      if 65535 < port then .error .illegalPort
      else .ok (if defaultPort? scheme = some port then none else some port)

/-- The URL whose authority starts here. A backslash ends every port. -/
def withAuthority (scheme : String) (r : Reference) : Except UrlError Url := do
  let kind := SchemeKind.of scheme
  let ends (c : Char) : Bool := UrlPath.isSlash kind.isLenient c
  let tail := r.front.dropWhile fun c => !ends c
  let (userinfo?, rest) := cutUserinfo (r.front.takeWhile fun c => !ends c)
  if userinfo? = some [] ∧ rest.isEmpty ∧ !(tail.isEmpty && r.isBare) then throw .emptyHost
  let (name, ported) := cutHost false rest
  if kind = .network ∧ name.isEmpty then throw .emptyHost
  let host ← if kind = .network then UrlHost.parse name else UrlHost.parseOpaque name
  if host = "" ∧ !ported.isEmpty then throw .emptyHost
  let port? ← portOf scheme (ported.takeWhile (· != '\\'))
  let (username, password?) := cutTail ':' (userinfo?.getD [])
  let written (part : List Char) : String :=
    String.ofList (Percent.encode Percent.isReservedInUserinfo part)
  let a : UrlAuthority := ⟨written username, written (password?.getD []), host, port?⟩
  if a.host = "" ∧ (a.username ≠ "" ∨ a.password ≠ "") then throw .emptyHost
  let path := UrlPath.afterAuthority kind (ported.dropWhile (· != '\\') ++ tail)
  return { scheme, authority? := some a, path := .segments path.names }

/-- The authority of a URL for a file that is on no other host. -/
def localAuthority : UrlAuthority := { host := "" }

def file (a : UrlAuthority) (path : List String) : Url :=
  { scheme := "file", authority? := some a, path := .segments path }

/-- The URL of a file whose host starts here. A drive letter stands in place of a host, and a path
that starts with one has no host. -/
def fileWithHost (cs : List Char) : Except UrlError Url := do
  let name := cs.takeWhile fun c => !isAnySlash c
  let rest := cs.dropWhile fun c => !isAnySlash c
  if UrlPath.isDriveLetter name then
    return file localAuthority (UrlPath.readFrom .file [""] cs).names
  let here := file localAuthority (UrlPath.readFrom .file [""] rest).names
  if name.isEmpty then return here
  let host ← UrlHost.parse name
  if host = "localhost" then return here
  let path := UrlPath.afterAuthority .file rest
  return file { host := if path.hasDrive then "" else host } path.names

/-- Whether a path starts with a drive letter. -/
def startsWithDrive (cs : List Char) : Bool :=
  UrlPath.isDriveLetter (cs.take 2) && ((cs.drop 2).head?.map isAnySlash).getD true

/-- The URL of a file whose path starts at the root of the base's host or drive. -/
def fileFromRoot (base? : Option Url) (cs : List Char) : Url :=
  let read (names : List String) : List String := (UrlPath.readFrom .file names cs).names
  match base? with
  | none => file localAuthority (read [""])
  | some base =>
    if startsWithDrive cs then file localAuthority (read [""])
    else match base.path.names with
      | name :: _ =>
        if UrlPath.isDrive name then file localAuthority (read [name, ""])
        else file (base.authority?.getD localAuthority) (read [""])
      | [] => file (base.authority?.getD localAuthority) (read [""])

def fileFrom (base? : Option Url) (cs : List Char) : Except UrlError Url :=
  match cs, base? with
  | [], some base => .ok { base with fragment? := none }
  | [], none => .ok (file localAuthority [""])
  | c :: rest, _ =>
    if isAnySlash c then
      match rest with
      | d :: hosted => if isAnySlash d then fileWithHost hosted else .ok (fileFromRoot base? rest)
      | [] => .ok (fileFromRoot base? rest)
    else match base? with
      | none => .ok (file localAuthority (UrlPath.readFrom .file [""] cs).names)
      | some base =>
        if startsWithDrive cs then
          .ok (file localAuthority (UrlPath.readFrom .file [""] cs).names)
        else
          let directory := UrlPath.withoutLast true base.path.names
          .ok (file (base.authority?.getD localAuthority)
            (UrlPath.readFrom .file directory cs).names)

/-- The URL that a reference without a scheme makes, relative to `base`. Two slashes or more,
backslashes among them, start an authority. -/
def relativeTo (base : Url) (r : Reference) : Except UrlError Url :=
  let onPath (names : List String) (cs : List Char) : Except UrlError Url :=
    let path := UrlPath.readFrom (SchemeKind.of base.scheme) names cs
    .ok { base with path := .segments path.names, query? := none, fragment? := none }
  match r.front with
  | [] => .ok { base with fragment? := none }
  | '/' :: '/' :: hosted => withAuthority base.scheme { r with front := hosted }
  | c :: rest =>
    if !isAnySlash c then onPath (UrlPath.directory base.path.names) (c :: rest)
    else if (rest.head?.map isAnySlash).getD false then
      withAuthority base.scheme { r with front := rest.dropWhile isAnySlash }
    else onPath [""] rest

def withScheme (base? : Option Url) (scheme : String) (r : Reference) : Except UrlError Url :=
  let base? := base?.filter fun base => base.scheme == scheme
  match SchemeKind.of scheme with
  | .file => fileFrom base? r.front
  | .network =>
    match base?.filter fun _ => (r.front.takeWhile isAnySlash).length < 2 with
    | some base => relativeTo base r
    | none => withAuthority scheme { r with front := r.front.dropWhile isAnySlash }
  | .other =>
    match r.front with
    | '/' :: '/' :: rest => withAuthority scheme { r with front := rest }
    | '/' :: rest => .ok { scheme, path := .segments (UrlPath.readFrom .other [""] rest).names }
    | cs =>
      .ok { scheme, path := .opaquePath (String.ofList (Percent.encode Percent.isControl cs)) }

/-- The query as it is written; a lenient scheme reserves apostrophes too. -/
def writtenQuery (kind : SchemeKind) (cs : List Char) : String :=
  let reserved (c : Char) : Bool := Percent.isReservedInQuery c || (kind.isLenient && c == '\'')
  String.ofList (Percent.encode reserved cs)

/-- The URL with the query and the fragment of the reference it was read from. A reference that has
nothing ahead of its fragment keeps the query of its base. -/
def withTail (url : Url) (r : Reference) : Url :=
  { url with
    query? := match r.query? with
      | some query => some (writtenQuery (SchemeKind.of url.scheme) query)
      | none => url.query?
    fragment? := r.fragment?.map fun fragment =>
      String.ofList (Percent.encode Percent.isReservedInFragment fragment) }

/-- The URL that a text tells, if need be relative to a base. -/
def parseWith (base? : Option Url) (s : String) : Except UrlError Url := do
  let r := Reference.of (tidied s)
  match r.cutScheme?, base? with
  | some (scheme, rest), _ => return withTail (← withScheme base? scheme rest) r
  | none, none => throw .relativeWithoutBase
  | none, some base =>
    if base.isOpaque then
      if r.front.isEmpty && r.query?.isNone && r.fragment?.isSome then return withTail base r
      else throw .relativeToOpaque
    else if base.scheme = "file" then return withTail (← fileFrom (some base) r.front) r
    else return withTail (← relativeTo base r) r

def parse (s : String) : Except UrlError Url := parseWith none s

def join (base : Url) (reference : String) : Except UrlError Url := parseWith (some base) reference

end RestService.Url
