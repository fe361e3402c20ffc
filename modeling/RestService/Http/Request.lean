import RestService.Dict
import RestService.Http.Header
import RestService.Http.Query
import RestService.Http.Target
import RestService.Url.Parser

set_option autoImplicit false

namespace RestService

structure Request where
  method : String := "GET"
  path : String
  /-- The pairs of the query, decoded. -/
  query : List (String × String) := []
  headers : Headers := []
  body : ByteArray := ByteArray.empty
  /-- What the request goes by in logs. -/
  requestId : String := ""

namespace Request

/-- A request for a path, with a query after the first question mark. -/
def ofText (method target : String) : Request :=
  match Text.splitOnce '?' target with
  | some (path, query) => { method, path, query := Query.parse query }
  | none => { method, path := target }

def header? (r : Request) (name : String) : Option String := Headers.text? r.headers name

/-- A request as it came over a connection. The header for it names the request. -/
def ofTarget (method : String) (target : Target) (headers : Headers) (body : ByteArray) :
    Request where
  method
  path := target.path
  query := (target.query?.map Query.parse).getD []
  headers
  body
  requestId := (Headers.text? headers HeaderName.requestId).getD ""

/-- The request with a header, unless its value may not stand in one. -/
def withHeader (r : Request) (name : String) (value : String) : Request :=
  match HeaderValue.ofText? value with
  | some bytes => { r with headers := r.headers.insert name bytes }
  | none => r

def params (r : Request) : Dict String := Dict.ofList r.query

/-- The schemes of URLs that need no completion. -/
def isAbsolute (url : String) : Bool :=
  "http://".toList.isPrefixOf url.toList || "https://".toList.isPrefixOf url.toList

/-- A reference as an absolute URL: relative to the public URL, or else to the host that the request
names. -/
def absoluteUrl (r : Request) (publicUrl? : Option String) (reference : String) : String :=
  if isAbsolute reference then reference
  else
    let joined? := publicUrl?.bind fun text =>
      ((Url.parse text).toOption.bind fun base => (base.join reference).toOption).map Url.text
    match joined?, r.header? HeaderName.host with
    | some url, _ => url
    | none, some host => s!"http://{host}{reference}"
    | none, none => reference

end Request

end RestService
