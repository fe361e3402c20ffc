import RestService.Pipeline.Application

set_option autoImplicit false

namespace RestService

structure Endpoint (σ : Type) where
  app : Application σ
  /-- The number of bytes that a body may have. -/
  maxBody : Nat := 1048576

/-- A request as a connection brings it. -/
structure Message where
  method : String
  target : Target
  headers : Headers
  body : ByteArray

namespace Endpoint

variable {σ : Type}

def serverName : String := "rest-pipeline/0.1.0"

/-- The type of a body of which nothing is known. -/
def octetStream : String := "application/octet-stream"

def identify (freshId : String) (message : Message) : Message :=
  { message with headers := message.headers.insertNew HeaderName.requestId freshId.toUTF8 }

/-- The answer to a message with too long a body. -/
def tooLarge (limit : Nat) (message : Message) : Response × List LogEvent :=
  (Response.ofText .payloadTooLarge "Request entity too large",
    [⟨.warn, "Request body rejected",
      [ ("path", .text message.target.path), ("limit", .count limit),
        ("error", .text "length limit exceeded") ]⟩])

def reply (e : Endpoint σ) (message : Message) : StateM σ (Response × List LogEvent) :=
  if e.maxBody < message.body.size then pure (tooLarge e.maxBody message)
  else e.app.handle (Request.ofTarget message.method message.target message.headers message.body)

/-- The headers that every response has; those that it has already stay. -/
def complete (message : Message) (response : Response) : Response :=
  let headers := response.headers.insertNew HeaderName.contentType octetStream.toUTF8
  let headers := headers.insertNew HeaderName.server serverName.toUTF8
  match message.headers.get? HeaderName.requestId with
  | some id => { response with headers := headers.insertNew HeaderName.requestId id }
  | none => { response with headers }

/-- The response as it is sent: with its length, which responses to HEAD have without the body. A
tunnel that has been opened starts with neither. -/
def frame (method : String) (response : Response) : Response :=
  if method = "CONNECT" ∧ response.status.isSuccess then { response with body := ByteArray.empty }
  else
    let length := (toString response.body.size).toUTF8
    { response with
      headers := response.headers.insertNew HeaderName.contentLength length
      body := if method = "HEAD" then ByteArray.empty else response.body }

/-- What a message is answered with, and what the log says of it. -/
def answer (e : Endpoint σ) (freshId : String) (message : Message) :
    StateM σ (Response × List LogEvent) := do
  let message := identify freshId message
  let (response, events) ← e.reply message
  return (frame message.method (complete message response), events)

end Endpoint

end RestService
