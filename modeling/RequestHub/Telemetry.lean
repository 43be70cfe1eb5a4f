import RequestHub.Settings

/-!
# Telemetry

What an application tells about its work is set up from its settings: how the log is written, how
traces are exported, and how requests are counted.
-/

namespace RequestHub

/-- The version of the program. -/
def programVersion : String := "0.1.0"

namespace Telemetry

/-- How the log is written. -/
structure LogOutput where
  enabled : Bool
  level : String
  asJson : Bool
  /-- Whether the beginnings and ends of spans are written. -/
  spanEvents : Bool
  /-- Whether the place in the program is written. -/
  place : Bool
  threadIds : Bool
  /-- Whether the part of the program is written. -/
  source : Bool
  serviceName : String
deriving DecidableEq, Repr

namespace LogOutput

/-- The log for people who develop a hub. -/
def development : LogOutput where
  enabled := true
  level := "debug"
  asJson := false
  spanEvents := true
  place := true
  threadIds := false
  source := true
  serviceName := "hubwork"

/-- The log for programs that collect it. -/
def production : LogOutput where
  enabled := true
  level := "info"
  asJson := true
  spanEvents := false
  place := false
  threadIds := false
  source := true
  serviceName := "hubwork"

/-- The log in a format of the settings. -/
def ofFormat : LogFormat → LogOutput
  | .json => production
  | .pretty => development

/-- The output as a JSON object. -/
def toJson (output : LogOutput) : Json :=
  Json.ofMembers
    [("enabled", .bool output.enabled), ("level", .string output.level),
      ("json_format", .bool output.asJson), ("span_events", .bool output.spanEvents),
      ("file_line_info", .bool output.place), ("thread_ids", .bool output.threadIds),
      ("include_target", .bool output.source), ("service_name", .string output.serviceName)]

end LogOutput

/-- How traces are exported. -/
structure TraceExport where
  enabled : Bool := false
  endpoint : String := "http://localhost:4317"
  serviceName : String := "hubwork"
  serviceVersion : String := programVersion
  environment : String := "development"
  sampleRatio : Real64 := Real64.one
deriving DecidableEq, Repr

namespace TraceExport

/-- The export of a service in production, where a tenth of the traces is sampled. -/
def production (serviceName serviceVersion : String) : TraceExport where
  enabled := true
  serviceName := serviceName
  serviceVersion := serviceVersion
  environment := "production"
  sampleRatio := Real64.ofScaled false 1 (-1)

/-- The export as a JSON object; the share of sampled traces is told as a text. -/
def toJson (traces : TraceExport) : Json :=
  Json.ofMembers
    [("enabled", .bool traces.enabled), ("otlp_endpoint", .string traces.endpoint),
      ("service_name", .string traces.serviceName),
      ("service_version", .string traces.serviceVersion),
      ("environment", .string traces.environment),
      ("sample_ratio", .string traces.sampleRatio.text)]

end TraceExport

/-- How requests are counted. -/
structure Counting where
  enabled : Bool := true
  address : Option String := none
  /-- The bounds, in seconds, between which durations are counted together. -/
  buckets : List Real64 :=
    [(1, -3), (5, -3), (1, -2), (25, -3), (5, -2), (1, -1), (25, -2), (5, -1), (1, 0), (25, -1),
      (5, 0), (1, 1)].map fun (digits, power) => Real64.ofScaled false digits power
deriving DecidableEq, Repr

/-- The counting as a JSON object; bounds are told as texts. -/
def Counting.toJson (counting : Counting) : Json :=
  Json.ofMembers
    [("enabled", .bool counting.enabled), ("addr", .ofString? counting.address),
      ("duration_buckets", .ofStrings (counting.buckets.map Real64.text))]

end Telemetry

/-- What an application tells about its work. -/
structure Telemetry where
  logging : Telemetry.LogOutput
  traces : Telemetry.TraceExport
  counting : Telemetry.Counting
deriving DecidableEq, Repr

namespace Telemetry

/-- The telemetry that settings ask for. -/
def ofSettings (settings : TelemetrySettings) : Telemetry where
  logging :=
    { LogOutput.ofFormat settings.logging.format with
      level := settings.logging.level
      serviceName := settings.serviceName }
  traces :=
    { enabled := settings.tracing.enabled
      endpoint := settings.tracing.endpoint
      serviceName := settings.serviceName
      environment := settings.tracing.environment
      sampleRatio := settings.tracing.sampleRatio }
  counting := { enabled := settings.metrics.enabled, address := settings.metrics.address }

/-- The telemetry as a JSON object. -/
def toJson (telemetry : Telemetry) : Json :=
  Json.ofMembers
    [("logging", telemetry.logging.toJson), ("tracing", telemetry.traces.toJson),
      ("metrics", telemetry.counting.toJson)]

end Telemetry

end RequestHub
