import RequestHub.Application
import RequestHub.Trial.Answer
import RequestHub.Trial.Plugin

/-!
# Plans described in JSON

The plans of servers are changed step by step, and plugins are registered with the plan of an
application, as descriptions ask for.
-/

namespace RequestHub.Trial

/-- Changes the plan of a server as a step asks for. -/
def planStep (plan : Server.Plan) (step : Json) : Answer Server.Plan := do
  let text := step.textAt "value"
  match step.textAt "do" with
  | "hub" => return { plan with hub := some (Hub.make text) }
  | "config" =>
      return plan.withSettings (← decode (.record ServerSettings.shape) (step.field "value"))
  | "public_addr" => return { plan with publicAddress := text }
  | "private_addr" => return { plan with privateAddress := some text }
  | "without_private_listener" => return { plan with privateAddress := none }
  | _ => return { plan with shutdownTimeout := step.natAt "value" * Session.milli }

/-- A server, or the answer that there is none. -/
def orServerFailure {α : Type} (result : Except ServerFailure α) : Answer α :=
  result.mapError fun failure => View.error "Server" failure.message

/-- The addresses of a server. -/
def addresses (server : Server) : List (String × Json) :=
  [("public_addr", .string server.publicAddress.text),
    ("private_addr", Json.ofString? (server.privateAddress.map SocketAddress.text))]

/-- The name and the factory of a trial task; its configuration may be given once for all steps. -/
def taskIn (spec : Json) : String × Factory Task :=
  let name := spec.textAt "name"
  let typeName := spec.textAt "type"
  let make (_ : Nat) (config : Json) : Except Failure Task :=
    match tasks.lookup typeName with
    | some make => .ok (make ((spec.field? "config").getD config))
    | none => .error (.taskNotRegistered typeName)
  (name, ⟨name, make⟩)

/-- The name and the factory of a target that answers with a status. -/
def targetIn (spec : Json) : Answer (String × Factory Target) := do
  let name := spec.textAt "name"
  let status ← described (Description.status ((spec.field? "status").getD (.ofNat 200)))
  return (name, ⟨name, fun _ _ => .ok (static (Response.ofStatus status))⟩)

end RequestHub.Trial
