import RestService.Pipeline.Chain
import RestService.Pipeline.Context

/- The filters and handlers that make the standard actions create, read, update and delete records.

```text
action  on the way there                          on the way back
list    checkMethod, refuseEntity                 externalize, formatEntity
show    checkMethod, refuseEntity                 requireEntity, externalize, formatEntity
create  checkMethod, parseEntity, internalize     reportCreated, externalize, formatEntity
update  checkMethod, parseEntity, internalize     reportUpdated, externalize, formatEntity
delete  checkMethod, refuseEntity                 reportDeleted
```
-/

set_option autoImplicit false

namespace RestService

/-- The standard filters. -/
inductive StandardFilter
  /-- Refuses what the route or the collection has no action for. -/
  | checkMethod
  | refuseEntity
  /-- Reads the body. -/
  | parseEntity
  /-- From the external shape to the internal one. -/
  | internalize
  /-- Tells where the new record is. -/
  | reportCreated
  | reportUpdated
  | reportDeleted
  /-- Nothing to show is a missing record. -/
  | requireEntity
  /-- From the internal shape to the external one. -/
  | externalize
  /-- Writes the body. -/
  | formatEntity
  deriving DecidableEq, Repr

/-- The standard handlers. -/
inductive StandardHandler
  | missingRecord
  | invalidInput
  deriving DecidableEq, Repr

namespace Standard

variable {σ : Type}

def refusal (cx : Context σ) : StatusSignal :=
  let methods := (cx.service.routes.methodsFor cx.request.path).filter fun method =>
    cx.actions.supports method.2
  let signal : StatusSignal := { status := .methodNotAllowed }
  match HeaderValue.ofText? (String.intercalate ", " (methods.map Prod.fst)) with
  | some value => signal.withHeader HeaderName.allow value
  | none => signal

def checkMethod (cx : Context σ) (input : Entity) : Except Fault Entity :=
  if cx.action ≠ ActionName.methodNotAllowed ∧ cx.actions.supports cx.action then .ok input
  else .error (.signal (refusal cx))

def refuseEntity (input : Entity) : Except Fault Entity :=
  if input.isEmpty then .ok input
  else .error (.ofStatus .badRequest "Action does not accept any input.")

def parseBody (cx : Context σ) (body : ByteArray) : Except Fault Value := do
  let some header := cx.request.header? HeaderName.contentType
    | throw (.ofStatus .badRequest "Missing Content-Type header.")
  let mediaType ← Context.ofSource (parseContentType header)
  if body.isEmpty then throw (.ofStatus .badRequest "Action requires input.")
  match Codec.forInput? cx.service.codecs mediaType.essence with
  | none => throw (.codec (.unsupportedMediaType mediaType.essence))
  | some codec =>
    match codec.parse cx.codecContext mediaType.charset? body with
    | .ok v => return v
    | .error error => throw (.codec error)

def parseEntity (cx : Context σ) : Entity → Except Fault Entity
  | .empty => (parseBody cx ByteArray.empty).map .value
  | .bytes body => (parseBody cx body).map .value
  | parsed => .ok parsed

/-- What clients identify errors in their input by. -/
def inputErrorId : String := "rest.entity_error"

/-- The resource that describes an error in the input. -/
def inputError (message : String) : Value :=
  (((⟨"error", []⟩ : Resource).insert "id" (.text inputErrorId)).insert "message"
    (.text message)).toValue

/-- The body that describes an error in the input, and its type, if the request accepts any. -/
def inputErrorBody (cx : Context σ) (message : String) : Option (String × ByteArray) := do
  let form ← cx.negotiate.toOption
  let body ← (cx.format form (inputError message)).toOption
  return (form.contentType, body)

def inputRefusal (cx : Context σ) (message : String) : Fault :=
  match inputErrorBody cx message with
  | some (contentType, body) =>
    let signal : StatusSignal := { status := .badRequest, reason? := some message }
    .signal (signal.withBody [(HeaderName.contentType, contentType.toUTF8)] body)
  | none => .ofStatus .badRequest message

def internalize (cx : Context σ) : Entity → Except Fault Entity
  | .value v =>
    match Transform.forward cx.service.catalogue cx.collection v with
    | .ok inner => .ok (.value inner)
    | .error (.validation error) => .error (inputRefusal cx error.message)
    | .error error => .error (.transform error)
  | other => .ok other

/-- The place that an output tells of, and what else it holds. -/
def cutLocation : Entity → Option String × Entity
  | .located location entity => (some location, entity)
  | .value (.text location) => (some location, .empty)
  | other => (none, other)

def reportCreated (cx : Context σ) (output : Entity) : Fallible Fault (Flow σ) Entity := do
  if (← get).response.status = .ok then modify (·.setStatus .created)
  let (location?, entity) := cutLocation output
  match location? with
  | none => return entity
  | some location =>
    let url := cx.request.absoluteUrl cx.service.publicUrl? location
    match HeaderValue.ofText? url with
    | none => throw (.internal s!"invalid location: {url}")
    | some value =>
      modify (·.setHeader HeaderName.location value)
      if !entity.isEmpty then modify (·.setHeader HeaderName.contentLocation value)
      return entity

def reportUpdated (output : Entity) : Fallible Fault (Flow σ) Entity := do
  if output.isEmpty then
    modify (·.setStatus .noContent)
    return .empty
  else return output

def reportDeleted (output : Entity) : Fallible Fault (Flow σ) Entity := do
  if output.isEmpty then
    modify (·.setStatus .noContent)
    return .empty
  else throw (.ofStatus .internalServerError "Not expecting any output for this action")

def requireEntity (output : Entity) : Except Fault Entity :=
  if output.isEmpty then .error (.signal { status := .notFound }) else .ok output

def externalize (cx : Context σ) : Entity → Except Fault Entity
  | .value v =>
    match Transform.reverse cx.service.catalogue v with
    | .ok outer => .ok (.value outer)
    | .error error => .error (.transform error)
  | other => .ok other

def formatBody (cx : Context σ) (v : Value) : Except Fault (Representation × ByteArray) := do
  let form ← cx.negotiate
  match cx.format form v with
  | .ok body => return (form, body)
  | .error error => throw (.codec error)

def formatEntity (cx : Context σ) : Entity → Fallible Fault (Flow σ) Entity
  | .value v =>
    if v.isNull then return .empty
    else do
      let (form, body) ← .ofResult (formatBody cx v)
      modify (·.setHeader HeaderName.contentType form.contentType.toUTF8)
      return .bytes body
  | other => return other

/-- A missing record is answered as such. -/
def missingRecord : Fault → Fault
  | .action (.notFound what) => .ofStatus .notFound s!"Not found: {what}"
  | other => other

/-- Errors in the input are described to the client. -/
def invalidInput (cx : Context σ) : Fault → Fault
  | .action (.invalid message) => inputRefusal cx message
  | .validation error => inputRefusal cx error.message
  | .transform (.validation error) => inputRefusal cx error.message
  | other => other

end Standard

def StandardFilter.run {σ : Type} (filter : StandardFilter) : Filter σ := fun entity => do
  let cx := (← get).context
  match filter with
  | checkMethod => .ofResult (Standard.checkMethod cx entity)
  | refuseEntity => .ofResult (Standard.refuseEntity entity)
  | parseEntity => .ofResult (Standard.parseEntity cx entity)
  | internalize => .ofResult (Standard.internalize cx entity)
  | reportCreated => Standard.reportCreated cx entity
  | reportUpdated => Standard.reportUpdated entity
  | reportDeleted => Standard.reportDeleted entity
  | requireEntity => .ofResult (Standard.requireEntity entity)
  | externalize => .ofResult (Standard.externalize cx entity)
  | formatEntity => Standard.formatEntity cx entity

def StandardHandler.run {σ : Type} (handler : StandardHandler) : FaultHandler σ := fun fault => do
  match handler with
  | missingRecord => return some (Standard.missingRecord fault)
  | invalidInput => return some (Standard.invalidInput (← get).context fault)

namespace Priority

def highest : Int := 10
def higher : Int := 40
def normal : Int := 50
def lower : Int := 60
def lowest : Int := 90

end Priority

namespace Standard

/-- A filter for an action of all collections. -/
def forAction (action : String) (priority : Int) (filter : StandardFilter) :
    Registration StandardFilter :=
  { action := .named action, priority, item := filter }

def input : List (Registration StandardFilter) :=
  [ { priority := Priority.highest, item := .checkMethod },
    forAction ActionName.list Priority.higher .refuseEntity,
    forAction ActionName.show Priority.higher .refuseEntity,
    forAction ActionName.delete Priority.higher .refuseEntity ]
  ++ [ActionName.create, ActionName.update].flatMap fun action =>
    [ forAction action Priority.normal .parseEntity,
      forAction action Priority.lower .internalize ]

/-- The actions whose output is sent to the client. -/
def shown : List String := [ActionName.list, ActionName.show, ActionName.create, ActionName.update]

def output : List (Registration StandardFilter) :=
  [ forAction ActionName.create Priority.higher .reportCreated,
    forAction ActionName.update Priority.higher .reportUpdated,
    forAction ActionName.delete Priority.higher .reportDeleted,
    forAction ActionName.show Priority.higher .requireEntity ]
  ++ shown.flatMap fun action =>
    [ forAction action Priority.normal .externalize,
      forAction action Priority.lower .formatEntity ]

def handlers : List (Registration StandardHandler) :=
  [ { priority := Priority.normal, item := .missingRecord },
    { priority := Priority.normal, item := .invalidInput } ]

/-- All of them, in the form that `filter` and `handler` give them. -/
def additions {φ η : Type} (filter : StandardFilter → φ) (handler : StandardHandler → η) :
    List (Addition φ η) :=
  (input.map fun r => .input (r.map filter)) ++ (output.map fun r => .output (r.map filter))
    ++ handlers.map fun r => .handler (r.map handler)

end Standard

def Filters.addStandard {φ η : Type} (f : Filters φ η) (filter : StandardFilter → φ)
    (handler : StandardHandler → η) : Filters φ η :=
  f.addAll (Standard.additions filter handler)

end RestService
