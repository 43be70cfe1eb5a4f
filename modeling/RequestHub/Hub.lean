import RequestHub.Service

/-!
# Hubs

A hub has a table of services and answers requests with them.  A request that names a service in the
table is dispatched to it; the response that is attached to the request in the end is the answer.
Every other end is a `FailedRequest`, which knows the status, the failure, the request, and the
response that was attached when the failure came.
-/

namespace RequestHub

/-- A request that was not answered. -/
structure FailedRequest where
  status : Status
  failure : Failure
  requestId : Option Uuid
  /-- The response that a target had given. -/
  response : Option Response
deriving DecidableEq, Inhabited, Repr

namespace FailedRequest

/-- The failed request in one line. -/
def message (failed : FailedRequest) : String :=
  failed.failure.message ++ " (" ++ failed.status.text ++ ")"

/-- What the client gets to see. -/
def report (failed : FailedRequest) : Failure.Report :=
  failed.failure.report (failed.requestId.map Uuid.text)

/-- The bare response with the status of the failure. -/
def bareResponse (failed : FailedRequest) : Response :=
  Response.ofStatus failed.status

/-- A request that could not even be read. -/
def unread (failure : Failure) : FailedRequest :=
  ⟨failure.status, failure, none, none⟩

end FailedRequest

/-- A table of services that answers requests. -/
structure Hub where
  application : String
  version : Option String
  services : Names Service
deriving Inhabited

namespace Hub

/-- A hub without services. -/
def make (application : String) : Hub :=
  { application, version := none, services := [] }

/-- The service for an interface and a name. -/
def resolve (hub : Hub) (api service : String) : Option Service :=
  hub.services.find? (routingKey api service)

/-- The hub with a service, and the service whose place it takes. -/
def addService (hub : Hub) (service : Service) : Option Service × Hub :=
  (hub.services.find? service.key,
    { hub with services := Names.insert service.key service hub.services })

/-- The hub with a service in the place of the one it had under the key. -/
def install (hub : Hub) (service : Service) : Hub :=
  (hub.addService service).2

/-- A hub answers for the key of a service with the service, and for other keys as before. -/
@[simp]
theorem resolve_install (hub : Hub) (service : Service) (api name : String) :
    (hub.install service).resolve api name =
      if routingKey api name = service.key then some service else hub.resolve api name :=
  Names.find?_insert ..

/--
The keys of the services, in order.  Those of a hash map would have to be sorted first; the table is the
form of such a map in which they are.
-/
def keys (hub : Hub) : List String :=
  hub.services.keys

/-- The number of services. -/
def size (hub : Hub) : Nat :=
  hub.services.length

/-- The hub in words. -/
def summary (hub : Hub) : String :=
  Text.record "Hub"
    [("application_name", Text.quoted hub.application),
      ("application_version", Text.optional (hub.version.map Text.quoted)),
      ("services", Text.sequence (hub.keys.map Text.quoted))]
    true

/-- The status of a failure of a dispatched request. -/
def dispatchStatus (failure : Failure) : Status :=
  match failure.kind with
  | .cancelled => .gatewayTimeout
  | _ => .internalServerError

/-- The span for a request that a hub handles: it continues the trace of the caller. -/
def serverSpan : Work Request Span := do
  let request ← Work.request
  let current ← Work.span
  let parent := (Span.extract? request.headers).orElse fun _ => current
  Work.take fun session => session.freshSpan parent

/-- Takes the response that is attached, if there is one. -/
def takeResponse : Work Request (Option Response) := do
  let request ← Work.request
  Work.modify Request.detach
  return request.response

/-- The answer after a dispatch that ended as given. -/
def conclude (service : Service) (id : Uuid) (ended : Except Failure Unit) :
    Work Request (Except FailedRequest Response) := do
  let response ← takeResponse
  match ended, response with
  | .ok _, some response => return .ok response
  | .ok _, none =>
      return .error ⟨.internalServerError, .emptyResponse service.name, some id, none⟩
  | .error failure, response =>
      return .error ⟨dispatchStatus failure, failure, some id, response⟩

/-- Routes the request and dispatches it. -/
def route (hub : Hub) (context : Context) : Work Request (Except FailedRequest Response) := do
  let request ← Work.request
  match hub.resolve request.route.api request.route.service with
  | none =>
      return .error
        ⟨.notFound, .serviceNotFound request.route.api request.route.service, some request.id, none⟩
  | some service => do
      let ended ← Work.attempt (service.dispatch (context.forRequest request.id))
      conclude service request.id ended

/-- Answers a request, in a span of its own. -/
def handle (hub : Hub) (context : Context) : Work Request (Except FailedRequest Response) := do
  let span ← serverSpan
  Work.traced span (hub.route context)

/-- Answers a request as it arrives. -/
def handleRaw (hub : Hub) (context : Context) (raw : RawRequest) (session : Session) :
    Outcome (Except FailedRequest Response) × Session :=
  let (id, session) := session.freshId
  match Request.ofRaw id raw with
  | .error failure => (.done (.error (.unread failure)), session)
  | .ok request =>
      let (outcome, _, session) := Work.run (hub.handle context) request session
      (outcome, session)

end Hub

end RequestHub
