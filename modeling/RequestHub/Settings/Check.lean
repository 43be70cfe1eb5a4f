import RequestHub.Configuration.Failure
import RequestHub.Http.Address
import RequestHub.Settings
import RequestHub.Text.Blank

/-!
# Checking settings

Settings are checked before an application uses them: addresses must be addresses, bodies must have
room, names must not be blank, and the level of the log and the share of sampled traces must be ones
that there are.  The first objection, in a fixed order, is the one that is told.
-/

namespace RequestHub.Settings

/-- Objects to the value of a setting unless a condition holds. -/
def demand (condition : Bool) (setting reason : String) : Except ConfigFailure Unit :=
  if condition then .ok () else .error (.invalidValue setting reason)

/-- Objects to an address that is none. -/
def checkAddress (setting address : String) : Except ConfigFailure Unit :=
  demand (SocketAddress.ofString? address).isSome setting ("invalid socket address: " ++ address)

/-- Objects to an address that is none, if one is given. -/
def checkAddress? (setting : String) : Option String → Except ConfigFailure Unit
  | some address => checkAddress setting address
  | none => .ok ()

/-- Whether a text has nothing but blanks. -/
def isVoid (text : String) : Bool :=
  (Text.trim text).isEmpty

/-- The levels of the log. -/
def levels : List String :=
  ["trace", "debug", "info", "warn", "error"]

/-- Whether a name is that of a level, in capital or small letters. -/
def isLevel (name : String) : Bool :=
  levels.contains (Text.lower name)

/-- The first objection to settings, if there is one. -/
def check (settings : Settings) : Except ConfigFailure Unit := do
  let server := settings.server
  let telemetry := settings.telemetry
  let tracing := telemetry.tracing
  checkAddress "server.public_addr" server.publicAddress
  checkAddress? "server.private_addr" server.privateAddress
  checkAddress? "telemetry.metrics.addr" telemetry.metrics.address
  demand (server.bodyLimit ≠ 0) "server.max_body_bytes" "must be greater than zero"
  demand (!isVoid settings.application.name) "application.name" "must not be empty"
  demand (!isVoid telemetry.serviceName) "telemetry.service_name" "must not be empty"
  demand tracing.sampleRatio.isShare "telemetry.tracing.sample_ratio"
    (tracing.sampleRatio.text ++ " is outside 0.0..=1.0")
  demand (!tracing.enabled || !isVoid tracing.endpoint) "telemetry.tracing.otlp_endpoint"
    "must not be empty when span export is enabled"
  demand (isLevel telemetry.logging.level) "telemetry.logging.level"
    ("unknown level '" ++ telemetry.logging.level ++ "'")

/-- Settings that pass the check. -/
def checked (settings : Settings) : Except ConfigFailure Settings := do
  settings.check
  return settings

end RequestHub.Settings
