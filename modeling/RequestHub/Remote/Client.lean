import RequestHub.Backoff
import RequestHub.Plugin

/-!
# Clients of remote hubs

A client knows where a remote hub is, how long to wait for an answer, and how often to try.  Its
configuration is checked field by field before the client is made, so that a client always has a host
and a backoff whose factor is at least one.
-/

namespace RequestHub.Remote

/-- How a configuration describes the attempts; durations are in seconds. -/
structure RetrySettings where
  initialDelay : Real64
  maxDelay : Real64
  multiplier : Real64
  maxRetries : Nat
deriving DecidableEq, Repr

namespace RetrySettings

/-- The attempts that are made without a description. -/
def standard : RetrySettings :=
  { initialDelay := Duration.toSeconds Backoff.standard.initial
    maxDelay := Duration.toSeconds Backoff.standard.longest
    multiplier := Backoff.standard.factor
    maxRetries := Backoff.standard.attempts }

instance : Inhabited RetrySettings := ⟨standard⟩

/-- The fields of a description. -/
def shape : Decoder.RecordShape RetrySettings where
  name := "RetrySettings"
  closed := true
  blank := standard
  fields :=
    [.defaulted "initialDelay" .real fun initialDelay settings => { settings with initialDelay },
      .defaulted "maxDelay" .real fun maxDelay settings => { settings with maxDelay },
      .defaulted "multiplier" .real fun multiplier settings => { settings with multiplier },
      .defaulted "maxRetries" .natural32 fun maxRetries settings => { settings with maxRetries }]

/-- A duration in seconds, or what is wrong with the field that gives it. -/
def duration (plugin field : String) (seconds : Real64) : Except Failure Nat :=
  (Duration.ofSeconds seconds).mapError fun refusal =>
    .invalidPluginConfig plugin ("backoff." ++ field ++ ": " ++ refusal.message)

/-- The attempts as they are described. -/
def toBackoff (plugin : String) (settings : RetrySettings) : Except Failure Backoff := do
  if !settings.multiplier.isFinite || !settings.multiplier.isOneOrMore then
    throw (.invalidPluginConfig plugin "backoff.multiplier must be at least 1")
  let initial ← duration plugin "initialDelay" settings.initialDelay
  let longest ← duration plugin "maxDelay" settings.maxDelay
  return { initial, longest, factor := settings.multiplier, attempts := settings.maxRetries }

end RetrySettings

/-- The configuration of a plugin that posts to a remote hub. -/
structure Config where
  host : String
  pathPrefix : String
  timeoutMs : Option Nat
  backoff : RetrySettings
deriving DecidableEq, Inhabited, Repr

namespace Config

/-- The fields of a configuration. -/
def shape : Decoder.RecordShape Config where
  name := "RemoteHttpConfig"
  closed := true
  blank := ⟨"", "", none, .standard⟩
  fields :=
    [.required "host" .string fun host config => { config with host },
      .defaulted "pathPrefix" .string fun pathPrefix config => { config with pathPrefix },
      .defaulted "timeoutMs" (.optional .natural64) fun timeoutMs config =>
        { config with timeoutMs },
      .defaulted "backoff" (.record RetrySettings.shape) fun backoff config =>
        { config with backoff }]

end Config

/-- What a plugin needs to post to a remote hub. -/
structure Client where
  /-- The address of the hub, without a slash at its end. -/
  host : String
  /-- What is put in front of every path; it is empty, or begins and ends with a slash. -/
  base : String
  /-- How many milliseconds an attempt may take; zero stands for any number. -/
  timeoutMs : Option Nat
  backoff : Backoff
deriving DecidableEq, Inhabited, Repr

namespace Client

/-- The part of a path that is put in front of others, with a slash at both ends. -/
def baseOf (part : String) : String :=
  if part.isEmpty then ""
  else
    (if part.startsWith "/" then "" else "/") ++ part ++ (if part.endsWith "/" then "" else "/")

/-- The client that a configuration describes. -/
def ofConfig (plugin : String) (config : Config) : Except Failure Client := do
  let host := String.ofList (config.host.toList.reverse.dropWhile (· = '/')).reverse
  if host.isEmpty then throw (.invalidPluginConfig plugin "host must not be empty")
  let backoff ← config.backoff.toBackoff plugin
  return { host, base := baseOf config.pathPrefix, timeoutMs := config.timeoutMs, backoff }

/-- The client that the JSON configuration of a plugin describes. -/
def read (plugin : String) (config : Json) : Except Failure Client := do
  ofConfig plugin (← Plugin.configuration plugin (.record Config.shape) config)

/-- The address for a path. -/
def urlFor (client : Client) (path : String) : String :=
  if client.base.isEmpty then client.host ++ path
  else client.host ++ client.base ++ String.ofList (path.toList.dropWhile (· = '/'))

/-- How long an attempt may take, in nanoseconds. -/
def limit? (client : Client) : Option Nat :=
  (client.timeoutMs.filter (0 < ·)).map (· * Duration.milli)

end Client

end RequestHub.Remote
