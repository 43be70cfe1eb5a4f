import RequestHub.Envelope
import RequestHub.Http.Url
import RequestHub.Remote.Client

/-!
# Forwarding

A request is forwarded to a remote hub as an envelope; the reply is an envelope as well.  An attempt
that was not answered, or answered by a server in trouble, is made again; any other refusal is final, and
so is a success whose body does not come.  The target answers with the remote response, and the task puts
it in the place of the response that is attached or, if there is none, of what the request carries.
-/

namespace RequestHub.Remote

/-- The name of the type of the task and of the target. -/
def typeName : String := "remote_http"

/-- The reply that an answer amounts to; its body is missing if it has not come. -/
def readReply (status : Status) (body : Option Bytes) : Except PluginFault ResponseEnvelope :=
  if status.isSuccess then
    match body with
    | some body =>
        (ResponseEnvelope.decoder.fromText body).mapError fun fault => .malformedReply fault.message
    | none => .error (.malformedReply "error decoding response body")
  else .error (.remoteStatus status.code (Bytes.decodeLossy (body.getD [])))

/-- The header fields of a posting: the media type and, within a span, its identifiers. -/
def postedHeaders (span : Option Span) : Headers :=
  let headers := Headers.set [] "content-type" Response.jsonType
  match span with
  | some span => span.inject headers
  | none => headers

variable {σ : Type}

/-- The fault of a posting that was not answered. -/
def unanswered (url : Url) : PluginFault :=
  .transport ("error sending request for url (" ++ url.text ++ ")")

/-- Waits for something to come, but no longer than there is time; says whether it has come. -/
def arrives (limit : Option Nat) (duration : Nat) : Work σ Bool := do
  match limit.filter (· ≤ duration) with
  | some limit =>
      Work.wait limit
      return false
  | none =>
      Work.wait duration
      return true

/-- Takes in what becomes of a posting.  A client has one time for a status line and its body. -/
def receive (client : Client) (url : Url) : Delivery → Work σ (Except PluginFault ResponseEnvelope)
  | .refused => return .error (unanswered url)
  | .broken delay => do
      let _ ← arrives client.limit? (delay * Duration.milli)
      return .error (unanswered url)
  | .answered delay status more body => do
      if ← arrives client.limit? (delay * Duration.milli) then
        let left := client.limit?.map (· - delay * Duration.milli)
        let whole ← arrives left (more * Duration.milli)
        return readReply status (if whole then body else none)
      else return .error (unanswered url)

/-- Posts an envelope once. -/
def send (client : Client) (url : Url) (envelope : RequestEnvelope) :
    Work σ (Except PluginFault ResponseEnvelope) := do
  let span ← Work.span
  let body := Bytes.ofString envelope.toJson.render
  receive client url (← Work.take fun session => session.post ⟨url.text, postedHeaders span, body⟩)

/-- Posts an envelope once to an address that may not be one. -/
def attempt (client : Client) (address : String) (envelope : RequestEnvelope) :
    Work σ (Except PluginFault ResponseEnvelope) :=
  match Url.ofString? address with
  | none => return .error (.transport "builder error")
  | some url =>
      if url.hasHost && url.isPostable then send client url envelope
      else return .error (.transport ("builder error for url (" ++ url.text ++ ")"))

/-- The fault that is told when forwarding was given up. -/
def finalFault : Backoff.GivenUp PluginFault → PluginFault
  | .useless fault => fault
  | .exhausted attempts last =>
      .transport ((Backoff.GivenUp.exhausted attempts last).message PluginFault.message)

/-- Forwards a request until it is answered or given up. -/
def forward (client : Client) (request : Request) : Work σ ResponseEnvelope := do
  let envelope := RequestEnvelope.ofRequest request
  let address := client.urlFor envelope.path
  match ← client.backoff.run (fun fault => !fault.isRetryable) (attempt client address envelope) with
  | .ok reply => return reply
  | .error givenUp => Work.fail (.plugin (finalFault givenUp))

/-- The value of a reply, or the failure that it is malformed. -/
def ofReply {α : Type} (part : Except PluginFault α) : Work σ α :=
  Work.ofExcept (part.mapError .plugin)

/-- The target that answers with the response of a remote hub. -/
def target (client : Client) : Target where
  run context := do
    let reply ← Work.within context (forward client (← Work.request))
    return some (← ofReply reply.toResponse)

/-- A request after a reply was put in the place of its response or of what it carries. -/
def applyReply (status : Status) (headers : Headers) (body : Bytes) (request : Request) : Request :=
  match request.response with
  | some response => request.attach { response with status, headers, body }
  | none => { request with headers, body }

/-- The task that puts the response of a remote hub in the place of what it was asked with. -/
def task (client : Client) : Task where
  name := typeName
  run context := do
    let reply ← Work.within context (forward client (← Work.request))
    let status ← ofReply reply.status
    let headers ← ofReply reply.headerFields
    Work.modify (applyReply status headers reply.body)

end RequestHub.Remote
