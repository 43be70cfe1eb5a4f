import RequestHub.Request
import RequestHub.Text.Base64

/-!
# Envelopes

A request is sent to a remote hub, and its response comes back, as JSON objects.  Bodies are written in
base64.  Header fields are written as texts, so a value that is not visible ASCII is left out.
-/

namespace RequestHub

/-- Header fields as an envelope writes them. -/
abbrev WireHeaders := Names (List String)

namespace WireHeaders

/-- The header fields that can be written; names whose values cannot are left out. -/
def ofHeaders (headers : Headers) : WireHeaders :=
  headers.filterMap fun (name, values) =>
    match values.filterMap Bytes.visibleText? with
    | [] => none
    | texts => some (name, texts)

/-- Adds the values of one name to header fields. -/
def addValues (headers : Headers) (name : String) : List String → Except PluginFault Headers
  | [] => .ok headers
  | text :: texts =>
      let value := Bytes.ofString text
      if Headers.isValue value then addValues (headers.append name value) name texts
      else .error (.malformedReply ("header " ++ name ++ ": failed to parse header value"))

/-- Adds written fields to header fields. -/
def addAll (headers : Headers) : WireHeaders → Except PluginFault Headers
  | [] => .ok headers
  | (name, texts) :: others =>
      match Headers.name? name with
      | none =>
          .error (.malformedReply
            ("header name " ++ Text.quoted name ++ ": invalid HTTP header name"))
      | some small => do addAll (← addValues headers small texts) others

/-- The header fields that were written. -/
def toHeaders (wire : WireHeaders) : Except PluginFault Headers :=
  addAll [] wire

/-- Reads written fields. -/
def decoder : Decoder WireHeaders :=
  .mapping (.sequence .string)

/-- Written fields as a JSON object. -/
def toJson (wire : WireHeaders) : Json :=
  .object (wire.map fun (name, texts) => (name, .ofStrings texts))

end WireHeaders

namespace Envelope

/-- Reads a body; one that is missing is empty. -/
def bodyDecoder : Decoder Bytes :=
  Decoder.string.optional.refine fun text =>
    (Text.Base64.decode (text.getD "")).mapError Text.Base64.Refusal.message

/-- A body as a JSON string. -/
def bodyJson (body : Bytes) : Json :=
  .string (Text.Base64.encode body)

end Envelope

/-- A request as it is sent to a remote hub. -/
structure RequestEnvelope where
  id : String
  api : String
  service : String
  method : String
  path : String
  query : Option String
  headers : WireHeaders
  body : Bytes
deriving DecidableEq, Inhabited, Repr

namespace RequestEnvelope

/-- The envelope of a request. -/
def ofRequest (request : Request) : RequestEnvelope :=
  { id := request.id.text
    api := request.route.api
    service := request.route.service
    method := request.method.name
    path := request.route.path
    query := request.uri.query
    headers := WireHeaders.ofHeaders request.headers
    body := request.body }

/-- The fields of the envelope. -/
def shape : Decoder.RecordShape RequestEnvelope where
  name := "RequestEnvelope"
  closed := false
  blank := default
  fields :=
    [.required "id" .string fun id envelope => { envelope with id },
      .required "apiName" .string fun api envelope => { envelope with api },
      .required "serviceName" .string fun service envelope => { envelope with service },
      .required "method" .string fun method envelope => { envelope with method },
      .required "path" .string fun path envelope => { envelope with path },
      .defaulted "query" (.optional .string) fun query envelope => { envelope with query },
      .defaulted "headers" WireHeaders.decoder fun headers envelope => { envelope with headers },
      .defaulted "body" Envelope.bodyDecoder fun body envelope => { envelope with body }]

/-- Reads an envelope. -/
def decoder : Decoder RequestEnvelope :=
  .record shape

/-- The envelope as a JSON object; a query that is missing is left out. -/
def toJson (envelope : RequestEnvelope) : Json :=
  Json.ofMembers
    ([("id", .string envelope.id), ("apiName", .string envelope.api),
        ("serviceName", .string envelope.service), ("method", .string envelope.method),
        ("path", .string envelope.path), ("headers", envelope.headers.toJson),
        ("body", Envelope.bodyJson envelope.body)] ++
      match envelope.query with
      | some query => [("query", .string query)]
      | none => [])

end RequestEnvelope

/-- A response as it comes back from a remote hub. -/
structure ResponseEnvelope where
  statusCode : Nat
  headers : WireHeaders
  body : Bytes
deriving DecidableEq, Inhabited, Repr

namespace ResponseEnvelope

/-- The envelope of a response; trailers are left out. -/
def ofResponse (response : Response) : ResponseEnvelope :=
  { statusCode := response.status.code
    headers := WireHeaders.ofHeaders response.headers
    body := response.body }

/-- The status of the response. -/
def status (envelope : ResponseEnvelope) : Except PluginFault Status :=
  match Status.ofNat? envelope.statusCode with
  | some status => .ok status
  | none => .error (.malformedReply ("invalid status code " ++ toString envelope.statusCode))

/-- The header fields of the response. -/
def headerFields (envelope : ResponseEnvelope) : Except PluginFault Headers :=
  envelope.headers.toHeaders

/-- The response in the envelope. -/
def toResponse (envelope : ResponseEnvelope) : Except PluginFault Response := do
  let status ← envelope.status
  let headers ← envelope.headerFields
  return { status, headers, trailers := [], body := envelope.body }

/-- The fields of the envelope. -/
def shape : Decoder.RecordShape ResponseEnvelope where
  name := "ResponseEnvelope"
  closed := false
  blank := default
  fields :=
    [.required "statusCode" .natural16 fun statusCode envelope => { envelope with statusCode },
      .defaulted "headers" WireHeaders.decoder fun headers envelope => { envelope with headers },
      .defaulted "body" Envelope.bodyDecoder fun body envelope => { envelope with body }]

/-- Reads an envelope. -/
def decoder : Decoder ResponseEnvelope :=
  .record shape

/-- The envelope as a JSON object. -/
def toJson (envelope : ResponseEnvelope) : Json :=
  Json.ofMembers
    [("statusCode", .ofNat envelope.statusCode), ("headers", envelope.headers.toJson),
      ("body", Envelope.bodyJson envelope.body)]

end ResponseEnvelope

end RequestHub
