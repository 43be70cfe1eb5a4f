import RequestHub.Decimal.Shortest
import RequestHub.Decoder

/-!
# Settings

The settings of an application say where its hub listens and how far requests may go, how it logs,
traces and counts, and what it is called.  Every setting has a default, and only known settings may be
given.
-/

namespace RequestHub

/-- Where a hub listens, and the bounds on its requests. -/
structure ServerSettings where
  publicAddress : String := "0.0.0.0:3531"
  /-- The address of the private listener, if there is to be one. -/
  privateAddress : Option String := some "127.0.0.1:3532"
  shutdownSeconds : Nat := 30
  /-- The greatest number of bytes in the body of a request. -/
  bodyLimit : Nat := 4194304
  /-- How long a request may take, in seconds; zero stands for no bound. -/
  requestSeconds : Nat := 0
deriving DecidableEq, Repr

/-- How the entries of the log are written. -/
inductive LogFormat where
  | json
  | pretty
deriving DecidableEq, Repr

/-- What is logged, and how. -/
structure LogSettings where
  level : String := "info"
  format : LogFormat := .json
deriving DecidableEq, Repr

/-- Whether and where traces are exported. -/
structure TraceSettings where
  enabled : Bool := false
  endpoint : String := "http://localhost:4317"
  environment : String := "development"
  /-- The share of traces that are sampled. -/
  sampleRatio : Real64 := Real64.one
deriving DecidableEq, Repr

/-- Whether and where the counts of requests are shown. -/
structure MetricsSettings where
  enabled : Bool := true
  address : Option String := none
deriving DecidableEq, Repr

/-- What an application tells about its work. -/
structure TelemetrySettings where
  serviceName : String := "hubwork"
  logging : LogSettings := {}
  tracing : TraceSettings := {}
  metrics : MetricsSettings := {}
deriving DecidableEq, Repr

/-- What an application is called, and the home of its documents. -/
structure ApplicationSettings where
  name : String := "hubwork-app"
  home : String := "."
deriving DecidableEq, Repr

/-- The settings of an application. -/
structure Settings where
  server : ServerSettings := {}
  telemetry : TelemetrySettings := {}
  application : ApplicationSettings := {}
deriving DecidableEq, Repr

/-! ## Reading -/

/-- The fields of a section, none of which has to come. -/
def ServerSettings.shape : Decoder.RecordShape ServerSettings where
  name := "ServerConfig"
  closed := true
  blank := {}
  fields :=
    [.defaulted "public_addr" .string fun publicAddress server => { server with publicAddress },
      .defaulted "private_addr" (.optional .string) fun privateAddress server =>
        { server with privateAddress },
      .defaulted "shutdown_timeout_secs" .natural64 fun shutdownSeconds server =>
        { server with shutdownSeconds },
      .defaulted "max_body_bytes" .size fun bodyLimit server => { server with bodyLimit },
      .defaulted "request_timeout_secs" .natural64 fun requestSeconds server =>
        { server with requestSeconds }]

/-- The names of the formats. -/
def LogFormat.names : List (String × LogFormat) :=
  [("json", .json), ("pretty", .pretty)]

/-- The name of a format. -/
def LogFormat.name : LogFormat → String
  | .json => "json"
  | .pretty => "pretty"

/-- The fields of the settings of the log. -/
def LogSettings.shape : Decoder.RecordShape LogSettings where
  name := "LoggingConfig"
  closed := true
  blank := {}
  fields :=
    [.defaulted "level" .string fun level logging => { logging with level },
      .defaulted "format" (.choice LogFormat.names) fun format logging => { logging with format }]

/-- The fields of the settings of traces. -/
def TraceSettings.shape : Decoder.RecordShape TraceSettings where
  name := "TracingSettings"
  closed := true
  blank := {}
  fields :=
    [.defaulted "enabled" .bool fun enabled tracing => { tracing with enabled },
      .defaulted "otlp_endpoint" .string fun endpoint tracing => { tracing with endpoint },
      .defaulted "environment" .string fun environment tracing => { tracing with environment },
      .defaulted "sample_ratio" .real fun sampleRatio tracing => { tracing with sampleRatio }]

/-- The fields of the settings of counts. -/
def MetricsSettings.shape : Decoder.RecordShape MetricsSettings where
  name := "MetricsConfig"
  closed := true
  blank := {}
  fields :=
    [.defaulted "enabled" .bool fun enabled metrics => { metrics with enabled },
      .defaulted "addr" (.optional .string) fun address metrics => { metrics with address }]

/-- The fields of what an application tells about its work. -/
def TelemetrySettings.shape : Decoder.RecordShape TelemetrySettings where
  name := "TelemetryConfigSection"
  closed := true
  blank := {}
  fields :=
    [.defaulted "service_name" .string fun serviceName telemetry => { telemetry with serviceName },
      .defaulted "logging" (.record LogSettings.shape) fun logging telemetry =>
        { telemetry with logging },
      .defaulted "tracing" (.record TraceSettings.shape) fun tracing telemetry =>
        { telemetry with tracing },
      .defaulted "metrics" (.record MetricsSettings.shape) fun metrics telemetry =>
        { telemetry with metrics }]

/-- The fields of an application. -/
def ApplicationSettings.shape : Decoder.RecordShape ApplicationSettings where
  name := "ApplicationConfig"
  closed := true
  blank := {}
  fields :=
    [.defaulted "name" .string fun name application => { application with name },
      .defaulted "home" .string fun home application => { application with home }]

namespace Settings

/-- The sections of the settings. -/
def shape : Decoder.RecordShape Settings where
  name := "HubworkConfig"
  closed := true
  blank := {}
  fields :=
    [.defaulted "server" (.record ServerSettings.shape) fun server settings =>
        { settings with server },
      .defaulted "telemetry" (.record TelemetrySettings.shape) fun telemetry settings =>
        { settings with telemetry },
      .defaulted "application" (.record ApplicationSettings.shape) fun application settings =>
        { settings with application }]

/-- Reads settings. -/
def decoder : Decoder Settings :=
  .record shape

/-! ## Writing -/

/-- Settings as a JSON object; the share of sampled traces is told as a text. -/
def toJson (settings : Settings) : Json :=
  let server := settings.server
  let telemetry := settings.telemetry
  Json.ofMembers
    [("server", Json.ofMembers
        [("public_addr", .string server.publicAddress),
          ("private_addr", .ofString? server.privateAddress),
          ("shutdown_timeout_secs", .ofNat server.shutdownSeconds),
          ("max_body_bytes", .ofNat server.bodyLimit),
          ("request_timeout_secs", .ofNat server.requestSeconds)]),
      ("telemetry", Json.ofMembers
        [("service_name", .string telemetry.serviceName),
          ("logging", Json.ofMembers
            [("level", .string telemetry.logging.level),
              ("format", .string telemetry.logging.format.name)]),
          ("tracing", Json.ofMembers
            [("enabled", .bool telemetry.tracing.enabled),
              ("otlp_endpoint", .string telemetry.tracing.endpoint),
              ("environment", .string telemetry.tracing.environment),
              ("sample_ratio", .string telemetry.tracing.sampleRatio.text)]),
          ("metrics", Json.ofMembers
            [("enabled", .bool telemetry.metrics.enabled),
              ("addr", .ofString? telemetry.metrics.address)])]),
      ("application", Json.ofMembers
        [("name", .string settings.application.name),
          ("home", .string settings.application.home)])]

/-! ## Bases -/

/-- Settings to start from while a hub is being developed. -/
def development : Settings :=
  { server := { publicAddress := "127.0.0.1:3531" }
    telemetry := { logging := { level := "debug", format := .pretty } } }

/-- Settings to start from in production. -/
def production : Settings :=
  {}

end Settings

end RequestHub
