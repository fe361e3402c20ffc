import RestService.Text.Blank
import RestService.Text.Case

set_option autoImplicit false

namespace RestService

/-- Names and values in the order in which they came. -/
abbrev Headers := List (String × ByteArray)

namespace HeaderName

def accept : String := "accept"
def acceptCharset : String := "accept-charset"
def allow : String := "allow"
def contentLength : String := "content-length"
def contentLocation : String := "content-location"
def contentType : String := "content-type"
def host : String := "host"
def location : String := "location"
def requestId : String := "x-request-id"
def server : String := "server"

end HeaderName

namespace HeaderValue

/-- The bytes that a value may hold: all but control characters, of which the tab is allowed. -/
def isAllowed (b : UInt8) : Bool := (32 ≤ b && b != 127) || b == 9

/-- The value that a text is, if it may be one. -/
def ofText? (s : String) : Option ByteArray :=
  if s.toUTF8.toList.all isAllowed then some s.toUTF8 else none

/-- The bytes of visible characters, space and tab. -/
def isVisible (b : UInt8) : Bool := (32 ≤ b && b < 127) || b == 9

/-- The text of a value that has visible characters only. -/
def text? (value : ByteArray) : Option String :=
  if value.toList.all isVisible then
    some (String.ofList (value.toList.map fun b => Char.ofNat b.toNat))
  else none

end HeaderValue

namespace Headers

def get? (headers : Headers) (name : String) : Option ByteArray := List.lookup name headers

def values (headers : Headers) (name : String) : List ByteArray :=
  (headers.filter fun header => header.1 == name).map Prod.snd

/-- The first value of a name as text; letters of the name may be of either case. -/
def text? (headers : Headers) (name : String) : Option String :=
  (get? headers (Text.lowerAscii name)).bind HeaderValue.text?

def erase (headers : Headers) (name : String) : Headers :=
  headers.filter fun header => header.1 != name

/-- The headers with `value` in place of all values of a name. -/
def insert (headers : Headers) (name : String) (value : ByteArray) : Headers :=
  erase headers name ++ [(name, value)]

/-- The headers with `value` unless the name has one. -/
def insertNew (headers : Headers) (name : String) (value : ByteArray) : Headers :=
  if (get? headers name).isSome then headers else headers ++ [(name, value)]

/-- The headers with those of `other`, which replace those of the same name. -/
def replace (headers other : Headers) : Headers :=
  (headers.filter fun header => (get? other header.1).isNone) ++ other

end Headers

end RestService
