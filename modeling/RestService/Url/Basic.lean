import RestService.Url.Host

set_option autoImplicit false

namespace RestService

/-- What stands between the slashes of a URL and its path. -/
structure UrlAuthority where
  username : String := ""
  password : String := ""
  /-- The host, which is empty in `file:///` and where a scheme allows it. -/
  host : UrlHost
  port? : Option Nat := none
  deriving DecidableEq, Repr

/-- The path of a URL. -/
inductive UrlPath
  /-- A path that is not divided, as in `mailto:a@b`. -/
  | opaquePath (text : String)
  | segments (names : List String)
  deriving DecidableEq, Repr

/-- A URL; all its parts are percent-encoded where they have to be. -/
structure Url where
  scheme : String
  authority? : Option UrlAuthority := none
  path : UrlPath
  query? : Option String := none
  fragment? : Option String := none
  deriving DecidableEq, Repr

def UrlAuthority.text (a : UrlAuthority) : String :=
  let password := if a.password = "" then "" else ":" ++ a.password
  let userinfo := if a.username = "" ∧ a.password = "" then "" else a.username ++ password ++ "@"
  let port := match a.port? with
    | some n => s!":{n}"
    | none => ""
  userinfo ++ a.host ++ port

def UrlPath.text : UrlPath → String
  | opaquePath text => text
  | segments names => String.join (names.map fun name => "/" ++ name)

namespace Url

/-- Whether the path is not divided. -/
def isOpaque (url : Url) : Bool :=
  match url.path with
  | .opaquePath _ => true
  | .segments _ => false

/-- The URL as it is written. A path that starts with two slashes would be taken for an authority if
nothing stood in front of it. -/
def text (url : Url) : String :=
  let front := match url.authority?, url.path with
    | some a, _ => "//" ++ a.text
    | none, .segments ("" :: _ :: _) => "/."
    | none, _ => ""
  let query := match url.query? with
    | some query => "?" ++ query
    | none => ""
  let fragment := match url.fragment? with
    | some fragment => "#" ++ fragment
    | none => ""
  url.scheme ++ ":" ++ front ++ url.path.text ++ query ++ fragment

end Url

end RestService
