import RestService.Http.Header
import RestService.Http.Status

set_option autoImplicit false

namespace RestService

/-- The answer that a request is to be ended with. -/
structure StatusSignal where
  status : Status
  headers : Headers := []
  body : ByteArray := ByteArray.empty
  reason? : Option String := none

namespace StatusSignal

/-- The signal with one more header, in place of those of the same name. -/
def withHeader (s : StatusSignal) (name : String) (value : ByteArray) : StatusSignal :=
  { s with headers := s.headers.insert name value }

/-- The signal with a body and the headers that describe it. -/
def withBody (s : StatusSignal) (headers : Headers) (body : ByteArray) : StatusSignal :=
  { s with headers := s.headers.replace headers, body }

def message (s : StatusSignal) : String :=
  let status := s!"HTTP {s.status.text}"
  match s.reason? with
  | some reason => s!"{status}: {reason}"
  | none => status

end StatusSignal

end RestService
