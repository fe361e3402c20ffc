import RestService.Log
import RestService.Settings.Reading

set_option autoImplicit false

namespace RestService

structure CommandLine where
  config? : Option String := none
  bind? : Option String := none
  deriving DecidableEq, Repr

namespace CommandLine

/-- The command line with the options that words tell, if nothing else is among them. -/
def ofWords? (line : CommandLine) : List String → Option CommandLine
  | [] => some line
  | option :: value :: words =>
    if option = "--config" ∨ option = "-c" then ofWords? { line with config? := some value } words
    else if option = "--bind" ∨ option = "-b" then ofWords? { line with bind? := some value } words
    else none
  | [_] => none

def usage : String := "usage: rest-pipeline [--config FILE] [--bind ADDRESS]"

/-- Settings with the address that the command line tells. -/
def apply (line : CommandLine) (s : Settings) : Settings :=
  { s with bindAddress := line.bind?.getD s.bindAddress }

end CommandLine

def LogValue.line : LogValue → String
  | text s => s
  | count n => toString n

def LogEvent.line (e : LogEvent) : String :=
  let fields := e.fields.map fun (name, value) => s!" {name}={value.line}"
  s!"{e.level.name} {e.message}{String.join fields}"

end RestService
