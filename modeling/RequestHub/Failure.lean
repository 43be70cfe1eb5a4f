import RequestHub.Decoder
import RequestHub.Http.Method
import RequestHub.Http.Status

/-!
# Why a request fails

Every way in which a hub can fail to answer is a constructor of `Failure` and carries what its
message needs.  The kind of a failure decides its status; its code names it for clients.  What a
client gets to see of a failure is its `Report`, a JSON object with the code, the message, the kind
and, where it is known, the identifier of the request.
-/

namespace RequestHub

/-- What went wrong inside a plugin. -/
inductive PluginFault where
  /-- A plugin that says in its own words what went wrong. -/
  | words (message : String)
  /-- A remote hub that answered with a status that is not a success. -/
  | remoteStatus (status : Nat) (body : String)
  /-- A remote hub that could not be reached. -/
  | transport (message : String)
  /-- A remote hub whose answer could not be read. -/
  | malformedReply (message : String)
  /-- A template that names an unknown field. -/
  | unknownTemplate (field : String)
deriving DecidableEq, Inhabited, Repr

namespace PluginFault

/-- The wording of a plugin's fault. -/
def message : PluginFault → String
  | .words message => message
  | .remoteStatus status body => "upstream returned " ++ toString status ++ ": " ++ body
  | .transport message => "upstream request failed: " ++ message
  | .malformedReply message => "malformed upstream reply: " ++ message
  | .unknownTemplate field => "unknown template field " ++ Text.quoted field

/-- Whether another attempt may succeed. -/
def isRetryable : PluginFault → Bool
  | .transport _ => true
  | .remoteStatus status _ => 500 ≤ status
  | .words _ | .malformedReply _ | .unknownTemplate _ => false

end PluginFault

/-- The kinds of failures. -/
inductive FailureKind where
  | unsupportedMethod
  | notFound
  | badRequest
  | cancelled
  | configuration
  | contract
  | plugin
deriving DecidableEq, Inhabited, Repr

namespace FailureKind

/-- The kinds and their names. -/
def named : List (String × FailureKind) :=
  [("unsupported_method", unsupportedMethod), ("not_found", notFound),
    ("bad_request", badRequest), ("cancelled", cancelled), ("configuration", configuration),
    ("contract", contract), ("plugin", plugin)]

/-- The name of a kind. -/
def name : FailureKind → String
  | .unsupportedMethod => "unsupported_method"
  | .notFound => "not_found"
  | .badRequest => "bad_request"
  | .cancelled => "cancelled"
  | .configuration => "configuration"
  | .contract => "contract"
  | .plugin => "plugin"

/-- The status that a kind of failure has. -/
def status : FailureKind → Status
  | .unsupportedMethod => .methodNotAllowed
  | .notFound => .notFound
  | .badRequest => .badRequest
  | .cancelled => .gatewayTimeout
  | .configuration | .contract | .plugin => .internalServerError

end FailureKind

/-- Why a request fails. -/
inductive Failure where
  | unsupportedMethod (method : String)
  | serviceNotFound (api service : String)
  | methodNotConfigured (method : Method) (service : String)
  | targetNotConfigured (service : String)
  | emptyResponse (service : String)
  | taskNotRegistered (name : String)
  | targetNotRegistered (name : String)
  | invalidPluginConfig (plugin reason : String)
  | bodyRead (message : String)
  | cancelled (message : String)
  | plugin (fault : PluginFault)
deriving DecidableEq, Inhabited, Repr

namespace Failure

/-- The wording of a failure. -/
def message : Failure → String
  | .unsupportedMethod method => "unsupported HTTP method: " ++ method
  | .serviceNotFound api service => "no such service found: " ++ api ++ "/" ++ service
  | .methodNotConfigured method service =>
      "method " ++ method.name ++ " is not configured for service " ++ service
  | .targetNotConfigured service => "no target configured for service " ++ service
  | .emptyResponse service =>
      "unexpected empty response from target of service " ++ service
  | .taskNotRegistered name => "workflow task not registered: " ++ name
  | .targetNotRegistered name => "workflow target not registered: " ++ name
  | .invalidPluginConfig name reason =>
      "invalid configuration for " ++ name ++ ": " ++ reason
  | .bodyRead message => "failed to read request body: " ++ message
  | .cancelled message => "request cancelled: " ++ message
  | .plugin fault => fault.message

/-- The kind of a failure. -/
def kind : Failure → FailureKind
  | .unsupportedMethod _ => .unsupportedMethod
  | .serviceNotFound _ _ => .notFound
  | .bodyRead _ => .badRequest
  | .cancelled _ => .cancelled
  | .methodNotConfigured _ _ | .targetNotConfigured _ | .taskNotRegistered _
  | .targetNotRegistered _ | .invalidPluginConfig _ _ => .configuration
  | .emptyResponse _ => .contract
  | .plugin _ => .plugin

/-- The name of a failure for clients. -/
def code : Failure → String
  | .unsupportedMethod _ => "UNSUPPORTED_METHOD"
  | .serviceNotFound _ _ => "SERVICE_NOT_FOUND"
  | .methodNotConfigured _ _ => "METHOD_NOT_CONFIGURED"
  | .targetNotConfigured _ => "TARGET_NOT_CONFIGURED"
  | .emptyResponse _ => "EMPTY_RESPONSE"
  | .taskNotRegistered _ => "TASK_NOT_REGISTERED"
  | .targetNotRegistered _ => "TARGET_NOT_REGISTERED"
  | .invalidPluginConfig _ _ => "INVALID_PLUGIN_CONFIG"
  | .bodyRead _ => "BAD_REQUEST"
  | .cancelled _ => "CANCELLED"
  | .plugin _ => "PLUGIN_ERROR"

/-- The status that a failure has by its kind. -/
def status (failure : Failure) : Status :=
  failure.kind.status

/-- Whether a plugin is missing from the registries. -/
def isNotRegistered : Failure → Bool
  | .taskNotRegistered _ | .targetNotRegistered _ => true
  | _ => false

/-- What a client gets to see of a failure. -/
structure Report where
  code : String
  message : String
  kind : FailureKind
  requestId : Option String
deriving DecidableEq, Inhabited, Repr

/-- The report of a failure of the request with the given identifier. -/
def report (failure : Failure) (requestId : Option String) : Report :=
  { code := failure.code
    message := failure.message
    kind := failure.kind
    requestId := requestId }

namespace Report

/-- The JSON object of a report; an unknown request is left out. -/
def toJson (report : Report) : Json :=
  Json.ofMembers
    ([("error",
        Json.ofMembers
          [("code", .string report.code), ("message", .string report.message),
            ("kind", .string report.kind.name)])] ++
      match report.requestId with
      | some id => [("requestId", .string id)]
      | none => [])

/-- The inner object of a report. -/
def detailShape : Decoder.RecordShape Report where
  name := "ErrorDetail"
  closed := false
  blank := default
  fields :=
    [.required "code" .string fun code report => { report with code },
      .required "message" .string fun message report => { report with message },
      .required "kind" (.choice FailureKind.named) fun kind report => { report with kind }]

/-- The object of a report. -/
def shape : Decoder.RecordShape Report where
  name := "ErrorEnvelope"
  closed := false
  blank := default
  fields :=
    [.required "error" (.record detailShape) fun detail report =>
        { detail with requestId := report.requestId },
      .optional "requestId" .string fun requestId report => { report with requestId }]

/-- Reads a report. -/
def decoder : Decoder Report :=
  .record shape

end Report

end Failure

namespace Method

/-- The method that a text names, or the failure of naming none. -/
def ofString (text : String) : Except Failure Method :=
  match ofString? text with
  | some method => .ok method
  | none => .error (.unsupportedMethod text)

/-- Reads a method by its name. -/
def decoder : Decoder Method :=
  Decoder.string.refine fun text => (ofString text).mapError Failure.message

end Method

end RequestHub
