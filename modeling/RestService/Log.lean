set_option autoImplicit false

namespace RestService

inductive LogLevel
  | error
  | warn
  | info
  | debug
  deriving DecidableEq, Repr

def LogLevel.name : LogLevel → String
  | error => "ERROR"
  | warn => "WARN"
  | info => "INFO"
  | debug => "DEBUG"

/-- The value of a field of an event. -/
inductive LogValue
  | text (s : String)
  | count (n : Nat)
  deriving DecidableEq, Repr

/-- Something that has happened. -/
structure LogEvent where
  level : LogLevel
  message : String
  fields : List (String × LogValue)
  deriving DecidableEq, Repr

/-- The filter that lets events of a level and above pass, of the service and of the protocol below
it. -/
def LogLevel.defaultFilter (level : String) : String :=
  s!"rest_pipeline={level},tower_http={level}"

end RestService
