import RestService.Fallible
import RestService.Fault
import RestService.Http.Request
import RestService.Http.Response
import RestService.Log
import RestService.Negotiation.Selection
import RestService.Representation.Codec
import RestService.Route.Table

set_option autoImplicit false

namespace RestService

/-- What a service is made of, its filters apart. The type `σ` is that of the state of its
collections. -/
structure Service (σ : Type) where
  routes : RouteTable
  catalogue : Catalogue
  /-- The actions of the collection of a name. -/
  actions : String → Collection σ
  codecs : List Codec
  /-- The charsets of responses, in order of preference. -/
  charsets : List String
  /-- The URL that the service is known by. -/
  publicUrl? : Option String

/-- A request and where it goes. -/
structure Context (σ : Type) where
  service : Service σ
  request : Request
  route : RouteMatch
  collection : CollectionSchema
  /-- The actions of the collection. -/
  actions : Collection σ

/-- Where a request is on its way. -/
inductive Phase
  | inputFiltering
  | actionInvoked
  | outputFiltering
  | faultHandling
  deriving DecidableEq, Repr

def Phase.name : Phase → String
  | inputFiltering => "InputFiltering"
  | actionInvoked => "ActionInvoked"
  | outputFiltering => "OutputFiltering"
  | faultHandling => "ExceptionHandling"

/-- The form of the body of a response. -/
structure Representation where
  codec : Codec
  charset : String
  deriving DecidableEq, Repr

def Representation.contentType (r : Representation) : String :=
  s!"{r.codec.mediaType}; charset={r.charset}"

namespace Context

variable {σ : Type}

def action (cx : Context σ) : String := cx.route.action

def codecContext (cx : Context σ) : CodecContext := ⟨cx.collection.hints, cx.collection.name⟩

/-- What a header says, or what its absence means. -/
def ofSource {α : Type} : Except SourceError α → Except Fault α
  | .ok v => .ok v
  | .error error => .error (.source error)

/-- The codec that the request prefers; without a header that tells, it accepts all of them. -/
def preferredCodec (cx : Context σ) : Except Fault Codec := do
  let accept := (cx.request.header? HeaderName.accept).getD "*/*"
  let chosen? ← ofSource (selectContentType (cx.service.codecs.map Codec.mediaType) accept)
  match chosen?.bind (Codec.forOutput? cx.service.codecs) with
  | some codec => return codec
  | none => throw (.negotiation (.mediaType accept))

def preferredCharset (cx : Context σ) : Except Fault String := do
  match cx.request.header? HeaderName.acceptCharset with
  | some accept =>
    match ← ofSource (selectCharset cx.service.charsets accept) with
    | some charset => return charset
    | none => throw (.negotiation (.charset accept))
  | none =>
    match cx.service.charsets.head? with
    | some charset => return charset
    | none => throw (.internal "no charsets configured")

def negotiate (cx : Context σ) : Except Fault Representation := do
  let codec ← cx.preferredCodec
  let charset ← cx.preferredCharset
  return ⟨codec, charset⟩

def format (cx : Context σ) (form : Representation) (v : Value) : Except CodecError ByteArray :=
  form.codec.format cx.codecContext form.charset v

end Context

/-- A request on its way, the response under construction, and the state of the collections. Filters
and handlers may look at all of it and change it, where the request goes included. -/
structure Flow (σ : Type) where
  context : Context σ
  phase : Phase := .inputFiltering
  response : ResponseHead := {}
  /-- What the log says of the request so far. -/
  log : List LogEvent := []
  world : σ

/-- A step on the way to an action or back: from the entity that came before to the one that goes
on. -/
abbrev Filter (σ : Type) := Entity → Fallible Fault (Flow σ) Entity

/-- A handler passes on a fault, the same or another one, or none if the fault has been dealt with.
-/
abbrev FaultHandler (σ : Type) := Fault → StateM (Flow σ) (Option Fault)

namespace Flow

variable {σ : Type}

def enter (flow : Flow σ) (phase : Phase) : Flow σ := { flow with phase }

def setStatus (flow : Flow σ) (status : Status) : Flow σ :=
  { flow with response := { flow.response with status } }

def setHeader (flow : Flow σ) (name : String) (value : ByteArray) : Flow σ :=
  let headers := flow.response.headers.insert name value
  { flow with response := { flow.response with headers } }

/-- An action on the state of the collections. -/
def onWorld {α : Type} (act : StateM σ α) : StateM (Flow σ) α := fun flow =>
  let (result, world) := act.run flow.world
  (result, { flow with world })

end Flow

end RestService
