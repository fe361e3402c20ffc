import RestService.Collection.Action
import RestService.Collection.Transform
import RestService.Representation.Error

set_option autoImplicit false

namespace RestService

/-- No form of a body is acceptable to the client. -/
inductive NegotiationError
  | mediaType (accept : String)
  | charset (accept : String)
  deriving DecidableEq, Repr

def NegotiationError.message : NegotiationError → String
  | mediaType accept => s!"no acceptable content-type in: {accept}"
  | charset accept => s!"no acceptable charset in: {accept}"

/-- What interrupts a request. -/
inductive Fault
  | signal (signal : StatusSignal)
  | source (error : SourceError)
  | validation (error : ValidationError)
  | negotiation (error : NegotiationError)
  | codec (error : CodecError)
  | transform (error : TransformError)
  | action (error : ActionError)
  | internal (reason : String)

namespace Fault

def ofStatus (status : Status) (reason : String) : Fault :=
  .signal { status, reason? := some reason }

def message : Fault → String
  | signal s => s.message
  | source error => error.message
  | validation error => error.message
  | negotiation error => error.message
  | codec error => error.message
  | transform error => error.message
  | action error => error.message
  | internal reason => s!"internal error: {reason}"

def status : Fault → Status
  | signal s => s.status
  | source (.header _ _) => .badRequest
  | source (.rule _ _ _) | source (.hint _ _) => .internalServerError
  | validation _ => .badRequest
  | negotiation _ => .notAcceptable
  | codec (.unsupportedMediaType _) | codec (.unsupportedCharset _) => .unsupportedMediaType
  | codec (.malformed _ _) => .badRequest
  | codec (.unformattable _ _) => .internalServerError
  | transform (.untyped _) => .internalServerError
  | transform (.validation _) | transform (.missingTypeHint _) => .badRequest
  | action (.notFound _) => .notFound
  | action (.invalid _) => .badRequest
  | action (.status s) => s.status
  | action (.failed _ _) => .internalServerError
  | internal _ => .internalServerError

def isClientError (f : Fault) : Bool := f.status.isClientError

/-- What caused a fault, outermost first. -/
def causes : Fault → List String
  | action (.failed _ causes) => causes
  | _ => []

/-- The wording with one more cause, unless it ends with it already. -/
def addCause (text cause : String) : String :=
  if cause.toList.isSuffixOf text.toList then text else s!"{text}: {cause}"

/-- The wording with that of all causes. -/
def chain (f : Fault) : String := f.causes.foldl addCause f.message

end Fault

end RestService
