import RestService.CommandLine
import RestService.Settings.Service

set_option autoImplicit false

open RestService

def readFile? (name : String) : IO (Option ByteArray) :=
  try return some (← IO.FS.readBinFile name) catch _ => return none

def loadSettings (line : CommandLine) : IO (Except SettingsError Settings) := do
  match line.config? with
  | none => return .ok {}
  | some name => return Settings.load (← readFile? name)

def main (args : List String) : IO UInt32 := do
  let some line := CommandLine.ofWords? {} args
    | IO.eprintln CommandLine.usage
      return 2
  match ← loadSettings line with
  | .error error =>
    IO.eprintln error.message
    return 1
  | .ok settings =>
    match (line.apply settings).endpoint with
    | .error error =>
      IO.eprintln error.message
      return 1
    | .ok endpoint =>
      endpoint.app.builtEvents.forM fun event => IO.println event.line
      return 0
