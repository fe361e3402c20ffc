set_option autoImplicit false

namespace RestService

/-- Why a body cannot be read or written. -/
inductive CodecError
  /-- The body is not of the format that it claims to have. -/
  | malformed (format reason : String)
  | unsupportedMediaType (name : String)
  | unsupportedCharset (name : String)
  /-- The format has no form for an entity. -/
  | unformattable (format reason : String)
  deriving DecidableEq, Repr

def CodecError.message : CodecError → String
  | malformed format reason => s!"{format} error: {reason}"
  | unsupportedMediaType name => s!"content-type not supported [{name}]"
  | unsupportedCharset name => s!"charset not supported [{name}]"
  | unformattable format reason => s!"cannot format {format} entity: {reason}"

end RestService
