import RequestHub.Configuration.Failure
import RequestHub.Decimal.Power
import RequestHub.Settings
import RequestHub.Text.Case
import RequestHub.Text.Split

/-!
# Settings from environment variables

A variable whose name starts with the prefix of an application overrides one setting: behind the
prefix come the parts of the setting's name, each behind two low lines.  Names that are no setting's are
passed over; a value that does not fit its setting is a failure.
-/

namespace RequestHub

/-- A setting that a variable can override. -/
inductive Setting where
  | publicAddress
  | privateAddress
  | shutdownSeconds
  | bodyLimit
  | requestSeconds
  | serviceName
  | level
  | format
  | metricsEnabled
  | metricsAddress
  | tracingEnabled
  | endpoint
  | environment
  | sampleRatio
  | name
  | home
deriving DecidableEq, Repr

namespace Setting

/-- Every setting. -/
def all : List Setting :=
  [.publicAddress, .privateAddress, .shutdownSeconds, .bodyLimit, .requestSeconds, .serviceName,
    .level, .format, .metricsEnabled, .metricsAddress, .tracingEnabled, .endpoint, .environment,
    .sampleRatio, .name, .home]

/-- The parts of the name of a setting. -/
def parts : Setting → List String
  | .publicAddress => ["SERVER", "PUBLIC_ADDR"]
  | .privateAddress => ["SERVER", "PRIVATE_ADDR"]
  | .shutdownSeconds => ["SERVER", "SHUTDOWN_TIMEOUT_SECS"]
  | .bodyLimit => ["SERVER", "MAX_BODY_BYTES"]
  | .requestSeconds => ["SERVER", "REQUEST_TIMEOUT_SECS"]
  | .serviceName => ["TELEMETRY", "SERVICE_NAME"]
  | .level => ["TELEMETRY", "LOGGING", "LEVEL"]
  | .format => ["TELEMETRY", "LOGGING", "FORMAT"]
  | .metricsEnabled => ["TELEMETRY", "METRICS", "ENABLED"]
  | .metricsAddress => ["TELEMETRY", "METRICS", "ADDR"]
  | .tracingEnabled => ["TELEMETRY", "TRACING", "ENABLED"]
  | .endpoint => ["TELEMETRY", "TRACING", "OTLP_ENDPOINT"]
  | .environment => ["TELEMETRY", "TRACING", "ENVIRONMENT"]
  | .sampleRatio => ["TELEMETRY", "TRACING", "SAMPLE_RATIO"]
  | .name => ["APPLICATION", "NAME"]
  | .home => ["APPLICATION", "HOME"]

/-- The setting whose name has the given parts. -/
def ofParts? (parts : List String) : Option Setting :=
  all.find? fun setting => setting.parts = parts

/-! ## Reading values -/

/-- A natural number of 64 bits; a plus sign may stand in front of it. -/
def natural? (text : String) : Option Nat :=
  let digits :=
    match text.toList with
    | '+' :: digits => digits
    | digits => digits
  (Decimal.natural? 10 digits).filter (· < twoTo 64)

/-- A truth value in one of its spellings, in capital or small letters. -/
def bool? (text : String) : Option Bool :=
  let small := Text.lower text
  if ["true", "1", "yes", "on"].contains small then some true
  else if ["false", "0", "no", "off"].contains small then some false
  else none

/-- A text that may be missing: the empty one and the word `none` stand for no text. -/
def text? (text : String) : Option String :=
  if text.isEmpty || Text.sameIgnoringAsciiCase text "none" then none else some text

/-- A value, or what was expected in its place. -/
def expect {α : Type} (expected : String) : Option α → Except String α
  | some value => .ok value
  | none => .error ("expected " ++ expected)

/-- Settings in which one has the value that a text spells, or what was expected of the text. -/
def assign (setting : Setting) (text : String) (settings : Settings) : Except String Settings := do
  let server := settings.server
  let telemetry := settings.telemetry
  let application := settings.application
  match setting with
  | .publicAddress => return { settings with server := { server with publicAddress := text } }
  | .privateAddress =>
      return { settings with server := { server with privateAddress := text? text } }
  | .shutdownSeconds =>
      let shutdownSeconds ← expect "integer" (natural? text)
      return { settings with server := { server with shutdownSeconds } }
  | .bodyLimit =>
      let bodyLimit ← expect "integer" (natural? text)
      return { settings with server := { server with bodyLimit } }
  | .requestSeconds =>
      let requestSeconds ← expect "integer" (natural? text)
      return { settings with server := { server with requestSeconds } }
  | .serviceName => return { settings with telemetry := { telemetry with serviceName := text } }
  | .level =>
      let logging := { telemetry.logging with level := text }
      return { settings with telemetry := { telemetry with logging } }
  | .format =>
      let format ← expect "'json' or 'pretty'" (LogFormat.names.lookup (Text.lower text))
      let logging := { telemetry.logging with format }
      return { settings with telemetry := { telemetry with logging } }
  | .metricsEnabled =>
      let enabled ← expect "boolean" (bool? text)
      let metrics := { telemetry.metrics with enabled }
      return { settings with telemetry := { telemetry with metrics } }
  | .metricsAddress =>
      let metrics := { telemetry.metrics with address := text? text }
      return { settings with telemetry := { telemetry with metrics } }
  | .tracingEnabled =>
      let enabled ← expect "boolean" (bool? text)
      let tracing := { telemetry.tracing with enabled }
      return { settings with telemetry := { telemetry with tracing } }
  | .endpoint =>
      let tracing := { telemetry.tracing with endpoint := text }
      return { settings with telemetry := { telemetry with tracing } }
  | .environment =>
      let tracing := { telemetry.tracing with environment := text }
      return { settings with telemetry := { telemetry with tracing } }
  | .sampleRatio =>
      let sampleRatio ← expect "number" (Decimal.real? text.toList)
      let tracing := { telemetry.tracing with sampleRatio }
      return { settings with telemetry := { telemetry with tracing } }
  | .name => return { settings with application := { application with name := text } }
  | .home => return { settings with application := { application with home := text } }

end Setting

/-- A variable of the environment. -/
structure Variable where
  name : String
  value : String
deriving DecidableEq, Repr

namespace Variable

/-- The parts between two low lines, which are looked for from the left. -/
def cutName : List Char → List (List Char)
  | '_' :: '_' :: rest => [] :: cutName rest
  | char :: rest =>
      match cutName rest with
      | [] => [[char]]
      | part :: parts => (char :: part) :: parts
  | [] => [[]]

/-- The parts of a name behind a prefix, unless it goes on otherwise than with two low lines. -/
def parts? (lead name : String) : Option (List String) := do
  let rest ← Text.dropLead? lead.toList name.toList
  let rest ← Text.dropLead? ['_', '_'] rest
  return (cutName rest).map String.ofList

/-- Whether a variable belongs to a prefix. -/
def belongs (lead : String) (held : Variable) : Bool :=
  (Text.dropLead? lead.toList held.name.toList).isSome

/-- Settings as a variable with the prefix overrides them. -/
def override (lead : String) (settings : Settings) (held : Variable) :
    Except ConfigFailure Settings :=
  match parts? lead held.name with
  | none => .error (.environment held.name "invalid key format")
  | some parts =>
      match Setting.ofParts? parts with
      | none => .ok settings
      | some setting =>
          (setting.assign held.value settings).mapError (ConfigFailure.environment held.name)

/-- Settings as the variables of a prefix override them, one after another. -/
def overrideAll (lead : String) (settings : Settings) (held : List Variable) :
    Except ConfigFailure Settings :=
  (held.filter (belongs lead)).foldlM (override lead) settings

end Variable

end RequestHub
