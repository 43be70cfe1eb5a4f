import RequestHub.Health
import RequestHub.Server

/-!
# Listeners

The public listener of a server shows the public services of its hub, and the private one takes calls
from one service to another and reports on the server itself.  A listener decides about a request in a
fixed order: reports, the method, whether the route is shown at all, the length of the body, and last
the hub.  A service that is not shown is answered for as if it did not exist.

`early?` decides with what is known before the body is read, `bodyRefusal?` when it has been read, and
`serve` lets the hub answer; the hub may have changed in between.
-/

namespace RequestHub

/-- The two listeners of a server. -/
inductive Listener where
  | publicSide
  | privateSide
deriving DecidableEq, Repr

/-- What the listeners of a server share. -/
structure Front where
  hub : Hub
  health : Health
  bodyLimit : Nat
  requestTimeout : Option Nat
  /-- The text of the counts, if requests are counted. -/
  counts : Option String

namespace Front

/-- What the listeners of a new server share. -/
def ofServer (server : Server) (session : Session) : Front where
  hub := server.hub
  health := Health.start session
  bodyLimit := server.bodyLimit
  requestTimeout := server.requestTimeout
  counts := none

end Front

namespace Listener

/-! ## Answers that do not come from the hub -/

/-- The answer with a report of a failure. -/
def reported (status : Status) (report : Failure.Report) : Response :=
  Response.ofJson status report.toJson

/-- The answer to a request that fails before it is dispatched. -/
def refused (failure : Failure) : Response :=
  reported failure.status (failure.report none)

/-- The answer to a request whose body is longer than the limit. -/
def tooLong (limit : Nat) : Response :=
  reported .payloadTooLarge
    { code := "PAYLOAD_TOO_LARGE"
      message := "request body exceeds " ++ toString limit ++ " bytes"
      kind := .badRequest
      requestId := none }

/-- The answer with the counts of requests. -/
def countsAnswer : Option String → Response
  | some text =>
      { Response.ofStatus .ok with
        headers := Headers.set [] "content-type" (Bytes.ofString "text/plain; version=0.0.4")
        body := Bytes.ofString text }
  | none =>
      reported .notFound
        { code := "METRICS_DISABLED"
          message := "no metrics recorder installed"
          kind := .notFound
          requestId := none }

/-- The answer whether the server is ready. -/
def readinessAnswer (front : Front) : Response :=
  Response.ofJson (if front.health.isReady then .ok else .serviceUnavailable)
    (front.health.readiness front.hub)

/-- The report that a path names. -/
def reportAt? (front : Front) (path : String) (session : Session) : Option Response :=
  if path = "/health" then
    some (Response.ofJson .ok (front.health.report front.hub session))
  else if path = "/ready" then some (readinessAnswer front)
  else if path = "/metrics" then some (countsAnswer front.counts)
  else none

/-! ## Decisions -/

/-- The report that a request asks for. -/
def report? (listener : Listener) (front : Front) (raw : RawRequest) (session : Session) :
    Option Response :=
  if listener = .privateSide && (raw.method = "GET" || raw.method = "HEAD") then
    reportAt? front raw.uri.path session
  else none

/-- The refusal of a method that hubs do not know. -/
def methodRefusal? (raw : RawRequest) : Option Response :=
  match Method.ofString raw.method with
  | .ok _ => none
  | .error failure => some (refused failure)

/-- Whether a listener shows the route of a path. -/
def shows (listener : Listener) (hub : Hub) (path : String) : Bool :=
  match listener with
  | .publicSide =>
      let route := Route.ofPath path
      !Route.isInternal path && (hub.resolve route.api route.service).all (·.isPublic)
  | .privateSide => Route.isInternal path

/-- The refusal of a route that is not shown. -/
def routeRefusal? (listener : Listener) (hub : Hub) (raw : RawRequest) : Option Response :=
  if listener.shows hub raw.uri.path then none
  else
    let route := Route.ofPath raw.uri.path
    some (refused (.serviceNotFound route.api route.service))

/-- The refusal of a body whose declared length exceeds the limit. -/
def declaredRefusal? (limit : Nat) (raw : RawRequest) : Option Response :=
  match Transport.declaredLength? raw.headers with
  | some length => if limit < length then some (tooLong limit) else none
  | none => none

/-- The answer that a request gets before its body is read, if it gets one. -/
def early? (listener : Listener) (front : Front) (raw : RawRequest) (session : Session) :
    Option Response :=
  listener.report? front raw session
    |>.or (methodRefusal? raw)
    |>.or (listener.routeRefusal? front.hub raw)
    |>.or (declaredRefusal? front.bodyLimit raw)

/-- The refusal of a body that exceeds the limit or breaks off. -/
def bodyRefusal? (limit : Nat) (raw : RawRequest) : Option Response :=
  if limit < raw.frames.flatten.length then some (tooLong limit)
  else raw.broken.map fun message => refused (.bodyRead message)

/-- The answer to a request with what came of it. -/
def answer : Except FailedRequest Response → Response
  | .ok response => response
  | .error failed => reported failed.status failed.report

/-- The context for a request: it ends with its connection, and when its time has run out. -/
def bounded? (front : Front) (connection : Context) (session : Session) :
    Option (Context × Session) :=
  match front.requestTimeout with
  | some timeout => connection.child? timeout session
  | none => some (connection, session)

/-- Lets the hub answer a request whose body has been read. -/
def serve (front : Front) (connection : Context) (raw : RawRequest) (session : Session) :
    Outcome Response × Session :=
  match bounded? front connection session with
  | none => (.aborted, session)
  | some (context, session) =>
      let (outcome, session) := front.hub.handleRaw context raw session
      (outcome.map answer, session)

/-- Answers a request. -/
def handle (listener : Listener) (front : Front) (connection : Context) (raw : RawRequest)
    (session : Session) : Outcome Response × Session :=
  match (listener.early? front raw session).or (bodyRefusal? front.bodyLimit raw) with
  | some response => (.done response, session)
  | none => serve front connection raw session

end Listener

end RequestHub
