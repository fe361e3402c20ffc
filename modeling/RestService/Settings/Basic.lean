import RestService.Collection.Schema
import RestService.Representation.Charset

set_option autoImplicit false

namespace RestService

/-- The form of the log. -/
inductive LogFormat
  | pretty
  | json
  deriving DecidableEq, Repr

namespace LogFormat

def name : LogFormat → String
  | pretty => "pretty"
  | json => "json"

def ofName? (s : String) : Option LogFormat :=
  if s = pretty.name then some pretty else if s = json.name then some json else none

theorem ofName?_name (form : LogFormat) : ofName? form.name = some form := by
  cases form <;> decide

end LogFormat

structure Settings where
  /-- Where the service listens. -/
  bindAddress : String := "0.0.0.0:8080"
  /-- How many bytes the body of a request may have. -/
  maxBody : Nat := 1048576
  /-- How many seconds a request may take. -/
  requestSeconds : Nat := 30
  logLevel : String := "info"
  logFormat : LogFormat := .pretty
  /-- Whether the service counts its requests. -/
  metricsEnabled : Bool := false
  /-- Where the counts can be read. -/
  metricsAddress : String := "0.0.0.0:9090"
  /-- The charsets of responses, in order of preference. -/
  charsets : List String := [Charset.utf8.name]
  /-- The URL that the service is known by; without one, requests tell it. -/
  publicUrl? : Option String := none
  collections : List CollectionSpec := []
  deriving DecidableEq, Repr

end RestService
