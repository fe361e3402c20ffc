import RestService.Http.Signal
import RestService.Resource.Entity

set_option autoImplicit false

namespace RestService

/-- Why an action failed. -/
inductive ActionError
  | notFound (what : String)
  | invalid (reason : String)
  | status (signal : StatusSignal)
  /-- A failure on the side of the server, with the chain of what caused it, outermost first. -/
  | failed (what : String) (causes : List String)

def ActionError.message : ActionError → String
  | notFound what => s!"not found: {what}"
  | invalid reason => s!"invalid input: {reason}"
  | status signal => signal.message
  | failed what _ => s!"action failed: {what}"

/-- What an action is called with. -/
structure ActionCall where
  /-- The variables of the path and the parameters of the query. -/
  args : Dict String := []
  /-- The entity of the request in its internal shape, if there is one. -/
  input? : Option Value := none

/-- The actions of a collection, by name. -/
structure Collection (σ : Type) where
  supports : String → Bool
  call : String → ActionCall → StateM σ (Except ActionError Entity)

end RestService
