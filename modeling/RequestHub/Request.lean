import RequestHub.Decimal.Power
import RequestHub.Failure
import RequestHub.Http.Address
import RequestHub.Http.Uri
import RequestHub.Query
import RequestHub.Response
import RequestHub.Route
import RequestHub.Text.Blank
import RequestHub.Uuid

/-!
# Requests

What arrives is a `RawRequest`: its body comes in frames, and reading it may fail.  A hub works on a
`Request`, which has a supported method, the whole body, the route and the parameters of its target,
and, once a target has answered, the response.
-/

namespace RequestHub

/-- The version of the protocol in which a request arrived. -/
inductive Version where
  | zeroNine
  | oneZero
  | oneOne
  | two
deriving DecidableEq, Inhabited, Repr

/-- The written form of a version. -/
def Version.text : Version → String
  | .zeroNine => "HTTP/0.9"
  | .oneZero => "HTTP/1.0"
  | .oneOne => "HTTP/1.1"
  | .two => "HTTP/2.0"

/-- A request as it arrives. -/
structure RawRequest where
  /-- The token that names the method. -/
  method : String
  uri : Uri
  version : Version
  /-- The address of the client, if it is known. -/
  remote : Option SocketAddress
  headers : Headers
  /-- The pieces in which the body arrives. -/
  frames : List Bytes
  /-- What breaks the body off behind its pieces, if anything does. -/
  broken : Option String
  trailers : Option Headers
deriving DecidableEq, Repr

/-- What is known of the way in which a request arrived. -/
structure Transport where
  version : Version
  remote : Option SocketAddress
  contentLength : Option Nat
  host : Option String
  uri : String
  /-- The encodings of the transfer, in order. -/
  encodings : List String
deriving DecidableEq, Repr

namespace Transport

/-- A number of 64 bits in decimal digits, with or without a plus sign. -/
def length? (text : String) : Option Nat := do
  let chars := text.toList
  let value ← Decimal.natural? 10 (if chars.head? = some '+' then chars.drop 1 else chars)
  if value < twoTo 64 then return value else none

/-- The length that header fields declare for the body. -/
def declaredLength? (headers : Headers) : Option Nat := do
  length? (Text.trim (← headers.text? "content-length"))

/-- The host that a request asks for: the header field, or else the authority of its target. -/
def host? (headers : Headers) (uri : Uri) : Option String :=
  match headers.text? "host" with
  | some host => some host
  | none => uri.authority?

/-- The encodings that header fields list for the transfer. -/
def listedEncodings (headers : Headers) : List String :=
  let lists := (headers.values "transfer-encoding").filterMap Bytes.visibleText?
  let pieces := lists.flatMap fun list => Text.cut ',' list.toList
  (pieces.map (Text.trimBy Text.isBlank)).filterMap fun piece =>
    if piece.isEmpty then none else some (String.ofList piece)

/-- What is known of the way in which a raw request arrived. -/
def ofRaw (raw : RawRequest) : Transport :=
  { version := raw.version
    remote := raw.remote
    contentLength := declaredLength? raw.headers
    host := host? raw.headers raw.uri
    uri := raw.uri.text
    encodings := listedEncodings raw.headers }

/-- What is known of a request that was made, not received. -/
def ofUri (uri : Uri) : Transport :=
  { version := .oneOne
    remote := none
    contentLength := none
    host := none
    uri := uri.text
    encodings := [] }

end Transport

/-- A request on which a hub works. -/
structure Request where
  id : Uuid
  method : Method
  uri : Uri
  route : Route
  params : Names String
  headers : Headers
  trailers : Headers
  body : Bytes
  /-- The response, once a target has answered. -/
  response : Option Response
  transport : Transport
deriving DecidableEq, Repr

namespace Request

/-- The request for a target, with the route and the parameters that the target spells. -/
def make (id : Uuid) (method : Method) (uri : Uri) (headers trailers : Headers) (body : Bytes) :
    Request :=
  { id
    method
    uri
    route := Route.ofPath uri.path
    params := (uri.query.map Query.parameters).getD []
    headers
    trailers
    body
    response := none
    transport := Transport.ofUri uri }

/--
The request that a raw request amounts to.  An unsupported method is refused before the body is
read, and a body that breaks off is refused whatever came before the break.
-/
def ofRaw (id : Uuid) (raw : RawRequest) : Except Failure Request :=
  match Method.ofString raw.method with
  | .error failure => .error failure
  | .ok method =>
      match raw.broken with
      | some message => .error (.bodyRead message)
      | none =>
          let request := make id method raw.uri raw.headers (raw.trailers.getD []) raw.frames.flatten
          .ok { request with transport := Transport.ofRaw raw }

/-- The value of a parameter. -/
def param? (request : Request) (name : String) : Option String :=
  request.params.find? name

/-- The request with a response in the place of the one attached before. -/
def attach (request : Request) (response : Response) : Request :=
  { request with response := some response }

/-- The request without a response. -/
def detach (request : Request) : Request :=
  { request with response := none }

/-- The JSON value that the body spells. -/
def json (request : Request) : Except Json.Fault Json :=
  Json.ofBytes request.body

end Request

end RequestHub
