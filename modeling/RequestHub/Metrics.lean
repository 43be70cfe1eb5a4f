import RequestHub.Http.Address
import RequestHub.Telemetry

/-!
# Counting requests

A hub counts the requests that it has answered, with how long each took, and the requests that it is
working on.  The counts are told as text, a line for each combination of labels; in a label, quotes,
backslashes and line ends are escaped.
-/

namespace RequestHub

/-- Why requests cannot be counted or traced as settings ask. -/
inductive TelemetryFailure where
  | metrics (reason : String)
  | address (address reason : String)
deriving DecidableEq, Repr

/-- The wording of a failure. -/
def TelemetryFailure.message : TelemetryFailure → String
  | .metrics reason => "Failed to initialize metrics: " ++ reason
  | .address given reason => "Invalid address: " ++ given ++ ": " ++ reason

namespace Telemetry

/-- Whether requests can be counted as asked; nothing is asked of a counting that is turned off. -/
def Counting.check (counting : Counting) : Except TelemetryFailure Unit :=
  if !counting.enabled then .ok ()
  else if counting.buckets.isEmpty then
    .error (.metrics "bucket bounds/quantiles cannot be empty")
  else
    match counting.address with
    | none => .ok ()
    | some address =>
        if (SocketAddress.ofString? address).isSome then .ok ()
        else .error (.address address SocketAddress.refusal)

end Telemetry

/-- The labels of a count, in the order in which they are told. -/
abbrev Labels := List (String × String)

/-- What has been counted. -/
structure Metrics where
  /-- How many requests were answered, by labels. -/
  requests : List (Labels × Nat) := []
  /-- How many durations were taken, by labels. -/
  durations : List (Labels × Nat) := []
  /-- How many requests are being worked on, once there was one. -/
  inFlight : Option Nat := none
deriving DecidableEq, Repr

namespace Metrics

/-- The counts with one more under some labels. -/
def increment (labels : Labels) : List (Labels × Nat) → List (Labels × Nat)
  | [] => [(labels, 1)]
  | (other, count) :: counts =>
      if other = labels then (other, count + 1) :: counts
      else (other, count) :: increment labels counts

/-- Counts an answered request. -/
def record (metrics : Metrics) (api service method : String) (status : Nat) : Metrics :=
  let labels := [("api", api), ("service", service), ("method", method)]
  { metrics with
    requests := increment (labels ++ [("status", toString status)]) metrics.requests
    durations := increment labels metrics.durations }

/-- Counts a request that is being worked on. -/
def enter (metrics : Metrics) : Metrics :=
  { metrics with inFlight := some (metrics.inFlight.getD 0 + 1) }

/-- Counts a request as no longer being worked on. -/
def leave (metrics : Metrics) : Metrics :=
  { metrics with inFlight := metrics.inFlight.map (· - 1) }

/-! ## Writing -/

/--
The characters of a label with its escapes.  A backslash is held back until the next character is
known: one before a quote or another backslash escapes it already and is not doubled.
-/
def escape (held : Bool) : List Char → List Char
  | [] => if held then ['\\', '\\'] else []
  | char :: rest =>
      if char = '\n' then '\\' :: 'n' :: escape held rest
      else if char = '"' then '\\' :: '"' :: escape false rest
      else if char = '\\' then
        if held then '\\' :: '\\' :: escape false rest else escape true rest
      else if held then '\\' :: '\\' :: char :: escape false rest
      else char :: escape false rest

/-- A label and its value. -/
def labelText (label : String × String) : String :=
  label.1 ++ "=\"" ++ String.ofList (escape false label.2.toList) ++ "\""

/-- A line for a count. -/
def line (name : String) (count : Labels × Nat) : String :=
  name ++ "\x7b" ++ String.intercalate "," (count.1.map labelText) ++ "\x7d " ++ toString count.2

/-- The lines that tell how many requests were answered, and how many are being worked on. -/
def lines (metrics : Metrics) : List String :=
  let all :=
    metrics.requests.map (line "hubwork_requests_total") ++
      metrics.durations.map (line "hubwork_request_duration_seconds_count") ++
      metrics.inFlight.toList.map fun count => "hubwork_in_flight_requests " ++ toString count
  all.mergeSort fun left right => left ≤ right

end Metrics

end RequestHub
