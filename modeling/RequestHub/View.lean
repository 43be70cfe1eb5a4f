import RequestHub.Catalog
import RequestHub.Description
import RequestHub.Hub

/-!
# Views

Operators look at the parts of a hub as JSON: requests with their routes, workflows in the order in which
they run, services with their handlers, failures with their kinds.  A handler that answers several
methods is shown once, and the other methods refer to it.
-/

namespace RequestHub

/-- Bytes: their text or, if they are none, an object with their base64. -/
def Bytes.view (bytes : Bytes) : Json :=
  match Bytes.decode? bytes with
  | some text => .string text
  | none => Json.ofMembers [("b64", .string (Text.Base64.encode bytes))]

/-- Header fields with their values. -/
def Headers.view (headers : Headers) : Json :=
  Json.ofMembers (headers.map fun (name, values) => (name, .array (values.map Bytes.view)))

/-- A value if there is one, otherwise `null`. -/
def Json.viewWith {α : Type} (view : α → Json) (value : Option α) : Json :=
  (value.map view).getD .null

namespace View

/-- An error by the name of its kind alone. -/
def bare (kind : String) : Json :=
  Json.ofMembers [("error", .string kind)]

/-- An error by the name of its kind and its message. -/
def error (kind message : String) : Json :=
  Json.ofMembers [("error", .string kind), ("message", .string message)]

end View

/-- A failure with its code. -/
def Failure.view (failure : Failure) : Json :=
  View.error failure.code failure.message

/-- An objection with its kind. -/
def Objection.view : Objection → Json
  | .headerName => View.bare "InvalidHeaderName"
  | .headerValue => View.bare "InvalidHeaderValue"
  | .target => View.bare "InvalidUri"
  | .method => View.bare "InvalidMethod"
  | .status => View.bare "InvalidStatus"
  | .unreadable message => View.error "Decode" message
  | .failure cause => cause.view

/-- The name of the kind of a plugin's fault. -/
def PluginFault.kind : PluginFault → String
  | .words _ => "Plugin"
  | .remoteStatus _ _ => "UpstreamStatus"
  | .transport _ => "Transport"
  | .malformedReply _ => "MalformedReply"
  | .unknownTemplate _ => "UnknownTemplate"

/-- A plugin's fault with its kind. -/
def PluginFault.view (fault : PluginFault) : Json :=
  View.error fault.kind fault.message

/-- The name of the kind of a configuration's failure. -/
def ConfigFailure.kind : ConfigFailure → String
  | .fileNotFound _ => "FileNotFound"
  | .unreadable _ _ => "ReadError"
  | .toml => "TomlError"
  | .json _ => "JsonError"
  | .document _ _ => "DocumentError"
  | .invalidValue _ _ => "InvalidValue"
  | .environment _ _ => "EnvParseError"
  | .invalid _ => "ValidationError"
  | .aggregate _ _ _ => "Aggregate"

/-- A configuration's failure with its kind and, for an aggregate, where it comes from. -/
def ConfigFailure.view (failure : ConfigFailure) : Json :=
  match failure with
  | .toml => View.bare failure.kind
  | .aggregate name handler source =>
      Json.ofMembers
        [("error", .string failure.kind), ("message", .string failure.message),
          ("aggregate", .string name), ("handler", .ofString? handler), ("source", source.view)]
  | _ => View.error failure.kind failure.message

/-- A response with all that it carries. -/
def Response.view (response : Response) : Json :=
  Json.ofMembers
    [("status", .ofNat response.status.code), ("headers", response.headers.view),
      ("trailers", response.trailers.view), ("body", response.body.view)]

/-- How a request arrived. -/
def Transport.view (transport : Transport) : Json :=
  Json.ofMembers
    [("version", .string transport.version.text),
      ("remote_addr", .ofString? (transport.remote.map SocketAddress.text)),
      ("content_length", .ofNat? transport.contentLength), ("host", .ofString? transport.host),
      ("request_uri", .string transport.uri),
      ("transfer_encoding", .ofStrings transport.encodings)]

/-- A request with its route and all that it carries. -/
def Request.view (request : Request) : Json :=
  Json.ofMembers
    [("id", .string request.id.text), ("api", .string request.route.api),
      ("service", .string request.route.service), ("key", .string request.route.key),
      ("method", .string request.method.name), ("uri", .string request.uri.text),
      ("path", .string request.uri.path), ("internal_path", .string request.route.path),
      ("params", .array (request.params.map fun (name, value) => .ofStrings [name, value])),
      ("headers", request.headers.view), ("trailers", request.trailers.view),
      ("body", request.body.view), ("transport", request.transport.view),
      ("response", .viewWith Response.view request.response)]

/-- A step with the name of its task. -/
def Step.view (step : Step) : Json :=
  Json.ofMembers
    [("name", .string step.name), ("precedence", .ofInt step.precedence),
      ("task_type", .string step.taskType), ("description", .ofString? step.description),
      ("task", .string step.task.name)]

/-- A workflow with its steps in the order in which they run. -/
def Workflow.view (workflow : Workflow) : Json :=
  Json.ofMembers
    [("len", .ofNat workflow.size), ("empty", .bool workflow.isEmpty),
      ("precedences", .array (workflow.precedences.map Json.ofInt)),
      ("steps", .array (workflow.steps.map Step.view))]

/-- A handler with its workflows and what is known of its target. -/
def Handler.view (handler : Handler) : Json :=
  Json.ofMembers
    [("inbound", .viewWith Workflow.view handler.inbound),
      ("outbound", .viewWith Workflow.view handler.outbound),
      ("has_target", .bool handler.target.isSome), ("target_name", .ofString? handler.targetName),
      ("target_type", .ofString? handler.targetType)]

namespace Service

/-- The methods of a service with their handlers. -/
def bound (service : Service) : List (Method × Handler) :=
  service.methods.filterMap fun method =>
    (service.handler method).map fun handler => (method, handler)

/-- The handler of a method, or the first method that has the same one. -/
def handlerView (service : Service) (method : Method) (handler : Handler) : Json :=
  match service.bound.find? fun (_, other) => other.serial = handler.serial with
  | some (first, _) =>
      if first = method then handler.view else Json.ofMembers [("same_as", .string first.name)]
  | none => handler.view

/-- A service with its handlers. -/
def view (service : Service) : Json :=
  Json.ofMembers
    [("name", .string service.name), ("api_name", .string service.api), ("key", .string service.key),
      ("public", .bool service.isPublic),
      ("timeout_ms", .ofNat? (service.timeout.map (· / Session.milli))),
      ("schema_name", .ofString? (service.schema.map (·.1))),
      ("schema_version", .ofString? (service.schema.map (·.2))),
      ("methods", .ofStrings (service.methods.map Method.name)),
      ("handlers",
        Json.ofMembers (service.bound.map fun (method, handler) =>
          (method.name, service.handlerView method handler)))]

end Service

/-- A hub with its services. -/
def Hub.view (hub : Hub) : Json :=
  Json.ofMembers
    [("application", .string hub.application), ("version", .ofString? hub.version),
      ("count", .ofNat hub.size), ("keys", .ofStrings hub.keys),
      ("services", Json.ofMembers (hub.services.map fun (key, service) => (key, service.view)))]

/-- A failed request with its failure and what the client gets to see. -/
def FailedRequest.view (failed : FailedRequest) : Json :=
  Json.ofMembers
    [("status", .ofNat failed.status.code), ("error", .string failed.failure.code),
      ("message", .string failed.failure.message), ("display", .string failed.message),
      ("has_request_id", .bool failed.requestId.isSome),
      ("target_response", .viewWith Response.view failed.response),
      ("response", failed.bareResponse.view), ("envelope", failed.report.toJson)]

/-- A schema with its content. -/
def SchemaDocument.view (document : SchemaDocument) : Json :=
  Json.ofMembers
    [("name", .string document.name), ("version", .string document.version),
      ("compatibility", .ofString? document.compatibility), ("content", document.content.view)]

/-- A catalog with its schemas. -/
def Catalog.view (catalog : Catalog) : Json :=
  Json.ofMembers
    [("len", .ofNat catalog.size), ("empty", .bool (catalog.size = 0)),
      ("documents",
        Json.ofMembers (catalog.documents.map fun (key, document) => (key, document.view)))]

/-- A context at a moment of a session. -/
def Context.view (session : Session) (context : Context) : Json :=
  Json.ofMembers
    [("cancelled", .bool (context.hasEnded session)), ("bounded", .bool context.deadline.isSome),
      ("remaining_ms", .ofNat? ((context.remaining? session).map (· / Session.milli))),
      ("request_id", .ofString? (context.requestId.map Uuid.text))]

namespace LogEntry

/-- The details that may be written in JSON. -/
def jsonDetails : List String := ["request", "response", "fields"]

/-- A detail as the JSON that it is written in, or as a text. -/
def detailView (name text : String) : Json :=
  if jsonDetails.contains name then
    match Json.ofBytes (Bytes.ofString text) with
    | .ok value => value
    | .error _ => .string text
  else .string text

/-- A log entry with its details. -/
def view (entry : LogEntry) : Json :=
  Json.ofMembers
    ([("level", .string entry.level.name), ("message", .string entry.message),
        ("task", .string entry.task)] ++
      entry.details.map fun (name, text) => (name, detailView name text))

end LogEntry

end RequestHub
