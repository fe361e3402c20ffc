import RestService.Pipeline.Standard

set_option autoImplicit false

namespace RestService

/-- A service with its filters and handlers. -/
structure Application (σ : Type) extends Service σ where
  filters : Filters (Filter σ) (FaultHandler σ)

/-- How the way of a request ends. -/
inductive Outcome
  | finished (head : ResponseHead) (body : ByteArray)
  | failed (fault : Fault)

namespace Application

variable {σ : Type}

/-- Filters one after the other, each on what the one before it gave, up to the first fault. -/
def runFilters : List (Filter σ) → Filter σ
  | [] => fun entity => pure entity
  | filter :: filters => fun entity => do
    let next ← filter entity
    runFilters filters next

/-- Handlers one after the other, each on the fault that the one before it passed on. -/
def runHandlers : List (FaultHandler σ) → FaultHandler σ
  | [] => fun fault => pure (some fault)
  | handler :: handlers => fun fault => do
    match ← handler fault with
    | none => return none
    | some next => runHandlers handlers next

/-- The entity that a request brings. -/
def requestEntity (request : Request) : Entity :=
  if request.body.isEmpty then .empty else .bytes request.body

/-- The input of an action that the filters have made of an entity, if they have read it. -/
def actionInput? : Entity → Option (Option Value)
  | .empty => some none
  | .value v => some (if v.isNull then none else some v)
  | .bytes body => if body.isEmpty then some none else none
  | .located _ _ => none

/-- The body that the filters have made of an output, if they have written it. -/
def responseBody? : Entity → Option ByteArray
  | .empty => some ByteArray.empty
  | .bytes body => some body
  | .value v => if v.isNull then some ByteArray.empty else none
  | .located _ _ => none

/-- The arguments of an action: the query, and the variables of the path, which win. -/
def arguments (cx : Context σ) : Dict String := Dict.extend cx.request.params cx.route.pathVars

/-- The fields that name a request and where it goes. -/
def requestFields (request : Request) (cx : Context σ) : List (String × LogValue) :=
  [ ("request_id", .text request.requestId), ("collection", .text cx.collection.name),
    ("action", .text cx.action) ]

/-- The flow when the action that the request came for is called. The log names the request as the
filters have left it. -/
def invoke (cx : Context σ) (flow : Flow σ) : Flow σ :=
  let event : LogEvent := ⟨.debug, "Invoking action", requestFields flow.context.request cx⟩
  { flow with phase := .actionInvoked, log := flow.log ++ [event] }

/-- The way back from an action. -/
def finish (app : Application σ) (cx : Context σ) (output : Entity) : StateM (Flow σ) Outcome := do
  modify (·.enter .outputFiltering)
  let filters := app.filters.output.resolve cx.collection.name cx.action
  match ← (runFilters filters output).run with
  | .error fault => return .failed fault
  | .ok entity =>
    match responseBody? entity with
    | some body => return .finished (← get).response body
    | none => return .failed (.internal "unformatted response entity")

/-- What becomes of a fault of an action. The handlers are those for where the request goes now. -/
def recover (app : Application σ) (error : ActionError) : StateM (Flow σ) Outcome := do
  modify (·.enter .faultHandling)
  let cx := (← get).context
  let handlers := app.filters.handlers.resolve cx.collection.name cx.action
  match ← runHandlers handlers (.action error) with
  | none => return .finished (← get).response ByteArray.empty
  | some fault => return .failed fault

/-- The way of a request through the filters to its action and back. The action is the one that the
request came for, but its arguments are those that the filters have left. -/
def run (app : Application σ) : StateM (Flow σ) Outcome := do
  let cx := (← get).context
  let filters := app.filters.input.resolve cx.collection.name cx.action
  match ← (runFilters filters (requestEntity cx.request)).run with
  | .error fault => return .failed fault
  | .ok entity =>
    match actionInput? entity with
    | none => return .failed (.internal "unparsed request entity")
    | some input? =>
      let call : ActionCall := ⟨arguments (← get).context, input?⟩
      modify (invoke cx)
      match ← Flow.onWorld (cx.actions.call cx.action call) with
      | .ok output => app.finish cx output
      | .error error => app.recover error

end Application

/-- The response that a signal asks for. Without a body of its own it gets a sentence for people. -/
def StatusSignal.response (s : StatusSignal) : Response :=
  if s.body.isEmpty then
    let text := s.reason?.getD (s.status.phrase?.getD "")
    let plain := Response.ofText s.status text
    let headers := s.headers.filter fun header => header.1 != HeaderName.contentType
    { plain with
      headers := headers.foldl (fun kept header => kept.insert header.1 header.2) plain.headers }
  else ⟨s.status, s.headers, s.body⟩

/-- The response to a fault that nobody has dealt with. -/
def Fault.response : Fault → Response
  | signal s => s.response
  | action (.status s) => s.response
  | other => Response.ofText other.status other.message

def Outcome.response : Outcome → Response
  | finished head body => head.withBody body
  | failed fault => fault.response

namespace Application

variable {σ : Type}

/-- What the log says of a fault; faults of the server are told with their causes. -/
def faultEvent (flow : Flow σ) (fault : Fault) : LogEvent :=
  let cx := flow.context
  let fields := requestFields cx.request cx ++ [("phase", .text flow.phase.name)]
  if fault.status.isServerError then
    ⟨.error, "Request failed", fields ++ [("error", .text fault.chain)]⟩
  else
    ⟨.warn, "Request rejected",
      fields ++ [("status", .count fault.status.code), ("error", .text fault.message)]⟩

/-- What the log says of the way of a request that came for `cx`. -/
def outcomeEvents (cx : Context σ) (outcome : Outcome) (flow : Flow σ) : List LogEvent :=
  let faults := match outcome with
    | .finished _ _ => []
    | .failed fault => [faultEvent flow fault]
  let fields := requestFields cx.request cx
    ++ [("status", .count outcome.response.status.code)]
  flow.log ++ faults ++ [⟨.debug, "Request finished", fields⟩]

def noRoute (request : Request) : Response × List LogEvent :=
  (Response.ofText .notFound "No matching route found",
    [⟨.debug, "No matching route", [("request_id", .text request.requestId),
      ("method", .text request.method), ("path", .text request.path)]⟩])

def noCollection (request : Request) (name : String) : Response × List LogEvent :=
  (Response.ofText .notFound s!"No such collection: {name}",
    [⟨.debug, "Unknown collection",
      [("request_id", .text request.requestId), ("collection", .text name)]⟩])

/-- The response to a request, and what the log says of it. -/
def handle (app : Application σ) (request : Request) : StateM σ (Response × List LogEvent) :=
  match app.routes.match? request.path request.method with
  | none => pure (noRoute request)
  | some route =>
    match app.catalogue.get? route.collection with
    | none => pure (noCollection request route.collection)
    | some collection => fun world =>
      let cx : Context σ :=
        { service := app.toService, request, route, collection
          actions := app.actions collection.name }
      let (outcome, flow) := app.run.run { context := cx, world }
      ((outcome.response, outcomeEvents cx outcome flow), flow.world)

end Application

end RestService
