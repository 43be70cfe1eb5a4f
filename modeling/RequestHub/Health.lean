import RequestHub.Hub

/-!
# Health

A server says that it is alive as soon as it runs, and that it is ready only while it accepts requests.
-/

namespace RequestHub

/-- What a server knows of itself. -/
structure Health where
  /-- The instant at which it began, in nanoseconds since the beginning of the session. -/
  started : Nat
  isReady : Bool
deriving DecidableEq, Inhabited, Repr

namespace Health

/-- The health of a server that has begun and is not ready yet. -/
def start (session : Session) : Health :=
  ⟨session.now, false⟩

/-- How long the server has run, in whole seconds. -/
def uptime (health : Health) (session : Session) : Nat :=
  (session.now - health.started) / Session.second

/-- The report that the server is alive. -/
def report (health : Health) (hub : Hub) (session : Session) : Json :=
  Json.ofMembers
    ([("status", .string "healthy"), ("application", .string hub.application),
        ("uptimeSeconds", .ofNat (health.uptime session))] ++
      match hub.version with
      | some version => [("version", .string version)]
      | none => [])

/-- The report whether the server is ready, and for which services. -/
def readiness (health : Health) (hub : Hub) : Json :=
  Json.ofMembers
    [("ready", .bool health.isReady), ("serviceCount", .ofNat hub.size),
      ("services", .ofStrings hub.keys)]

end Health

end RequestHub
