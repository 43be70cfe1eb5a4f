import RequestHub.Log.Template
import RequestHub.Plugin

/-!
# Logging tasks

Three tasks write to the log: one writes the request, one the response, and one the texts of its
templates.  None of them changes the request.
-/

namespace RequestHub.Log

/-! ## Records -/

/-- The JSON value of a body: what it spells, or else its text. -/
def bodyJson (body : Bytes) : Json :=
  if body.isEmpty then .null
  else
    match Json.ofBytes body with
    | .ok value => value
    | .error _ => .string (Bytes.decodeLossy body)

/-- The JSON object of header fields, the values of a name joined by commas. -/
def headersJson (headers : Headers) : Json :=
  .object (headers.map fun (name, values) =>
    (name, .string (String.intercalate ", " (values.map Bytes.decodeLossy))))

/-- The JSON object of a response. -/
def responseRecord (response : Response) : Json :=
  Json.ofMembers
    [("statusCode", .ofNat response.status.code),
      ("status", .string (response.status.phrase?.getD "")),
      ("headers", headersJson response.headers), ("body", bodyJson response.body)]

/-- The JSON object of a request, with the response if one is attached. -/
def requestRecord (request : Request) : Json :=
  Json.ofMembers
    ([("id", .string request.id.text), ("method", .string request.method.name),
        ("url", .string request.uri.text), ("headers", headersJson request.headers),
        ("body", bodyJson request.body)] ++
      match request.response with
      | some response => [("response", responseRecord response)]
      | none => [])

/-! ## Configurations -/

/-- The configuration of a task that writes to the log. -/
structure Config where
  name : Option String
  level : LogLevel
  /-- The templates, by the names under which their texts are written. -/
  fields : List (String × String)
deriving DecidableEq, Repr

namespace Config

/-- The configuration of a task about which nothing is said. -/
def standard : Config :=
  { name := none, level := .info, fields := [] }

instance : Inhabited Config := ⟨standard⟩

/-- The fields that every logging task has. -/
def commonFields : List (Decoder.Field Config) :=
  [.defaulted "name" (.optional .string) fun name config => { config with name },
    .defaulted "logLevel" LogLevel.decoder fun level config => { config with level }]

/-- The configuration of a logger. -/
def shape (name : String) : Decoder.RecordShape Config where
  name := name
  closed := false
  blank := standard
  fields := commonFields

/-- A template and its name. -/
def fieldShape : Decoder.RecordShape (String × String) where
  name := "LogField"
  closed := false
  blank := default
  fields :=
    [.required "name" .string fun name field => (name, field.2),
      .required "value" .string fun value field => (field.1, value)]

/-- The configuration of a writer. -/
def writerShape : Decoder.RecordShape Config where
  name := "LogWriterConfig"
  closed := false
  blank := standard
  fields :=
    commonFields ++
      [.defaulted "fields" (.sequence (.record fieldShape)) fun fields config =>
        { config with fields }]

end Config

/-! ## Tasks -/

/-- The name of the type of the task that writes the request. -/
def requestLogger : String := "request_logger"

/-- The name of the type of the task that writes the response. -/
def responseLogger : String := "response_logger"

/-- The name of the type of the task that writes the texts of templates. -/
def writer : String := "log_writer"

/-- The task that writes the request. -/
def requestTask (config : Config) : Task :=
  let name := config.name.getD requestLogger
  { name
    run := fun _ => do
      let request ← Work.request
      Work.log ⟨config.level, "request log", name, [("request", (requestRecord request).render)]⟩ }

/-- The task that writes the response, if there is one. -/
def responseTask (config : Config) : Task :=
  let name := config.name.getD responseLogger
  { name
    run := fun _ => do
      let request ← Work.request
      let id := ("request_id", request.id.text)
      match request.response with
      | some response =>
          Work.log ⟨config.level, "response log", name,
            [id, ("response", (responseRecord response).render)]⟩
      | none => Work.log ⟨config.level, "no response available to log", name, [id]⟩ }

/-- The task that writes the texts of its templates, or fails with the first unknown field. -/
def writerTask (config : Config) : Task :=
  let name := config.name.getD writer
  { name
    run := fun _ => do
      let request ← Work.request
      let texts ← Work.ofExcept ((Template.render request config.fields).mapError .plugin)
      let shown := Json.ofMembers (texts.map fun (name, text) => (name, .string text))
      Work.log ⟨config.level, "log writer", name, [("fields", shown.render)]⟩ }

end RequestHub.Log
