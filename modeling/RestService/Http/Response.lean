import RestService.Http.Header
import RestService.Http.Status

set_option autoImplicit false

namespace RestService

/-- The status and the headers of a response that has no body yet. -/
structure ResponseHead where
  status : Status := .ok
  headers : Headers := []

structure Response where
  status : Status
  headers : Headers := []
  body : ByteArray := ByteArray.empty

def ResponseHead.withBody (head : ResponseHead) (body : ByteArray) : Response :=
  ⟨head.status, head.headers, body⟩

namespace Response

/-- The media type of responses that are a sentence for people. -/
def plainText : String := "text/plain; charset=utf-8"

/-- A response that is a sentence for people. -/
def ofText (status : Status) (text : String) : Response where
  status
  headers := [(HeaderName.contentType, plainText.toUTF8)]
  body := text.toUTF8

def header? (r : Response) (name : String) : Option String := Headers.text? r.headers name

end Response

end RestService
