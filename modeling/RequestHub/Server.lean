import RequestHub.Duration
import RequestHub.Hub
import RequestHub.Settings

/-!
# Servers

A server gives a hub a public listener and perhaps a private one.  It is built from a plan: settings,
changes to them, and the hub.  A plan without a hub, or with an address that is none, is refused.
-/

namespace RequestHub

/-- Why a server cannot be built or started. -/
inductive ServerFailure where
  | invalidAddress (address reason : String)
  | missingHub
deriving DecidableEq, Repr

/-- The wording of a failure. -/
def ServerFailure.message : ServerFailure → String
  | .invalidAddress address reason => "invalid address '" ++ address ++ "': " ++ reason
  | .missingHub => "no hub configured"

/-- A hub with the addresses of its listeners and the bounds on its requests. -/
structure Server where
  hub : Hub
  publicAddress : SocketAddress
  privateAddress : Option SocketAddress
  /-- How long a stopping server waits for open connections, in nanoseconds. -/
  shutdownTimeout : Nat
  /-- The greatest number of bytes in the body of a request. -/
  bodyLimit : Nat
  /-- How long a request may take, in nanoseconds. -/
  requestTimeout : Option Nat

namespace Server

/-- The server in words. -/
def summary (server : Server) : String :=
  Text.record "Server"
    [("application", Text.quoted server.hub.application),
      ("public_addr", server.publicAddress.text),
      ("private_addr", Text.optional (server.privateAddress.map SocketAddress.text)),
      ("shutdown_timeout", Duration.text server.shutdownTimeout)]
    false

/-- A server that is yet to be built. -/
structure Plan where
  hub : Option Hub
  publicAddress : String
  privateAddress : Option String
  shutdownTimeout : Nat
  bodyLimit : Nat
  requestTimeout : Option Nat

namespace Plan

/-- The plan with everything that settings say. -/
def withSettings (plan : Plan) (settings : ServerSettings) : Plan :=
  { plan with
    publicAddress := settings.publicAddress
    privateAddress := settings.privateAddress
    shutdownTimeout := settings.shutdownSeconds * Duration.second
    bodyLimit := settings.bodyLimit
    requestTimeout :=
      if settings.requestSeconds = 0 then none
      else some (settings.requestSeconds * Duration.second) }

/-- A plan with the default settings and without a hub. -/
def start : Plan :=
  withSettings ⟨none, "", none, 0, 0, none⟩ {}

/-- The address that a text spells. -/
def address (text : String) : Except ServerFailure SocketAddress :=
  match SocketAddress.ofString? text with
  | some address => .ok address
  | none => .error (.invalidAddress text SocketAddress.refusal)

/-- The server of a plan. -/
def build (plan : Plan) : Except ServerFailure Server := do
  match plan.hub with
  | none => .error .missingHub
  | some hub =>
      let publicAddress ← address plan.publicAddress
      let privateAddress ← plan.privateAddress.mapM address
      return {
        hub
        publicAddress
        privateAddress
        shutdownTimeout := plan.shutdownTimeout
        bodyLimit := plan.bodyLimit
        requestTimeout := plan.requestTimeout }

end Plan

end Server

end RequestHub
