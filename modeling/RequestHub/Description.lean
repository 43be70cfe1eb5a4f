import RequestHub.Json.Lookup
import RequestHub.Request
import RequestHub.Text.Base64

/-!
# Requests and responses described in JSON

To try a hub out, requests, responses and failures are described by JSON objects.  A description can be
objected to: header fields, targets, methods and identifiers have to be well formed.
-/

namespace RequestHub

/-- Why a description is not accepted. -/
inductive Objection where
  | headerName
  | headerValue
  | target
  | method
  | status
  /-- A value that cannot be read, in the words of its decoder. -/
  | unreadable (message : String)
  | failure (failure : Failure)
deriving Inhabited, Repr

namespace Description

/-- Bytes: a text stands for its UTF-8 form, and an object for the base64 that it holds. -/
def bytes : Json → Bytes
  | .string text => Bytes.ofString text
  | value =>
      match Text.Base64.decode (value.textAt "b64") with
      | .ok bytes => bytes
      | .error _ => []

/-- Header fields: a sequence of pairs of a name and bytes. -/
def headers (value : Json) : Except Objection Headers :=
  let pairs := value.items.map fun pair =>
    ((pair.items.getD 0 .null).text, bytes (pair.items.getD 1 .null))
  (Headers.ofPairs pairs).mapError fun
    | .name => .headerName
    | .value => .headerValue

/-- The header fields under a name. -/
def headersAt (value : Json) (name : String) : Except Objection Headers :=
  headers (value.field name)

/-- Header fields with the pairs of others set, one after another. -/
def setAll (added headers : Headers) : Headers :=
  added.pairs.foldl (fun headers (name, value) => headers.set name value) headers

/-- Header fields with the pairs of others appended, one after another. -/
def appendAll (added headers : Headers) : Headers :=
  added.pairs.foldl (fun headers (name, value) => headers.append name value) headers

/-- What a decoder reads from a value. -/
def decode {α : Type} (decoder : Decoder α) (value : Json) : Except Objection α :=
  (decoder.ofValue value).mapError fun cause => .unreadable cause.message

/-- The target of a request. -/
def uri (value : Json) : Except Objection Uri :=
  match Uri.ofString? (value.textAt "uri") with
  | some uri => .ok uri
  | none => .error .target

/-- An identifier. -/
def id (text : String) : Except Objection Uuid :=
  (Uuid.ofString text).mapError fun refusal =>
    .unreadable ("UUID parsing failed: " ++ refusal.message)

/-- A status. -/
def status (value : Json) : Except Objection Status :=
  match value.int?.bind fun code => Status.ofNat? code.toNat with
  | some status => .ok status
  | none => .error .status

/-- The version of the protocol. -/
def version (value : Json) : Version :=
  match value.textAt "version" with
  | "0.9" => .zeroNine
  | "1.0" => .oneZero
  | "2.0" => .two
  | _ => .oneOne

/-- The pieces in which a body arrives. -/
def frames (value : Json) : List Bytes :=
  match value.field? "chunks" with
  | some chunks => chunks.items.map bytes
  | none => [bytes (value.field "body")].filter (!·.isEmpty)

/-- A request as it arrives. -/
def raw (value : Json) : Except Objection RawRequest := do
  let trailers ←
    match value.field? "trailers" with
    | some trailers => (headers trailers).map some
    | none => .ok none
  let method := value.textAt "method"
  if !Method.isToken method then .error .method
  let uri ← uri value
  let headers ← headersAt value "headers"
  return {
    method, uri, headers, trailers
    frames := frames value
    version := version value
    remote := (value.textAt? "remote").bind SocketAddress.ofString?
    broken := value.textAt? "body_error" }

/-- A request that is made field by field, with an identifier that is new if none is given. -/
def made (fresh : Uuid) (value : Json) : Except Objection Request := do
  let method ← (Method.ofString (value.textAt "method")).mapError .failure
  let uri ← uri value
  let headers ← headersAt value "headers"
  let trailers ← headersAt value "trailers"
  let id ←
    match value.textAt? "id" with
    | some text => id text
    | none => .ok fresh
  let more ← headersAt value "more_headers"
  return Request.make id method uri (appendAll more headers) trailers (bytes (value.field "body"))

/-- A failure by the name of its kind and the texts that it carries. -/
def failure (value : Json) : Failure :=
  let a := value.textAt "a"
  let b := value.textAt "b"
  match value.textAt "kind" with
  | "unsupported_method" => .unsupportedMethod a
  | "service_not_found" => .serviceNotFound a b
  | "method_not_configured" => .methodNotConfigured ((Method.ofString? a).getD .get) b
  | "target_not_configured" => .targetNotConfigured a
  | "empty_response" => .emptyResponse a
  | "task_not_registered" => .taskNotRegistered a
  | "target_not_registered" => .targetNotRegistered a
  | "invalid_plugin_config" => .invalidPluginConfig a b
  | "body_read" => .bodyRead a
  | "cancelled" => .cancelled a
  | _ => .plugin (.words a)

end Description

end RequestHub
