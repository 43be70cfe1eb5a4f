import RequestHub.Compile
import RequestHub.Plugin.BuiltIn
import RequestHub.Server
import RequestHub.Settings.Check

/-!
# Applications

An application is a hub loaded from a home, with settings that its server can be built from.  It is
built from a plan: a name, settings, and what counts more than they do.  A port that the plan gives
counts more than one that the home gives, and that one more than the port of the settings.
-/

namespace RequestHub

/-- A hub with the settings to serve it. -/
structure Application where
  name : String
  settings : Settings
  hub : Hub
  catalog : Catalog
  registries : Registries

namespace Application

/-- The server of an application. -/
def server (application : Application) : Except ServerFailure Server :=
  (({ Server.Plan.start with hub := some application.hub }).withSettings
    application.settings.server).build

/-- An application that is yet to be built. -/
structure Plan where
  name : String
  settings : Settings := {}
  home : Option String := none
  publicPort : Option Nat := none
  privatePort : Option Nat := none
  level : Option String := none
  /-- The factories of tasks beside the built-in ones, in the order in which they are registered. -/
  tasks : List (String × Factory Task) := []
  /-- The factories of targets beside the built-in ones. -/
  targets : List (String × Factory Target) := []

namespace Plan

/-- The plan in words. -/
def summary (plan : Plan) : String :=
  Text.record "ApplicationBuilder"
    [("name", Text.quoted plan.name), ("home", Text.optional (plan.home.map Text.quoted)),
      ("public_port", Text.optional (plan.publicPort.map toString)),
      ("private_port", Text.optional (plan.privatePort.map toString)),
      ("log_level", Text.optional (plan.level.map Text.quoted)),
      ("tasks", Text.sequence (plan.tasks.map fun task => Text.quoted task.1)),
      ("targets", Text.sequence (plan.targets.map fun target => Text.quoted target.1))]
    false

/-- The built-in factories and those of the plan; of two with one name the later one counts. -/
def registries (plan : Plan) : Registries :=
  let withTasks :=
    plan.tasks.foldl (fun registries task => registries.withTask task.1 task.2)
      (BuiltIn.register .empty)
  plan.targets.foldl (fun registries target => registries.withTarget target.1 target.2) withTasks

/-- The settings with the name, the home and the level of the log that the plan gives. -/
def named (plan : Plan) : Settings :=
  let settings := plan.settings
  let telemetry := settings.telemetry
  { settings with
    application := { name := plan.name, home := plan.home.getD settings.application.home }
    telemetry :=
      { telemetry with
        logging :=
          { telemetry.logging with level := plan.level.getD telemetry.logging.level } } }

/-- An address with another port. -/
def withPort (setting address : String) (port : Nat) : Except ConfigFailure String :=
  match SocketAddress.ofString? address with
  | some parsed => .ok (parsed.withPort port).text
  | none => .error (.invalidValue setting ("invalid socket address: " ++ address))

/-- An address with another port, if one is given. -/
def withPort? (setting address : String) : Option Nat → Except ConfigFailure String
  | some port => withPort setting address port
  | none => .ok address

/-- The settings with the ports that the plan or the home gives. -/
def withPorts (plan : Plan) (definition : Definition.Hub) (settings : Settings) :
    Except ConfigFailure Settings := do
  let server := settings.server
  let publicAddress ← withPort? "server.public_addr" server.publicAddress
    (plan.publicPort.or definition.publicPort)
  let privateAddress ← server.privateAddress.mapM fun address =>
    withPort? "server.private_addr" address (plan.privatePort.or definition.privatePort)
  return { settings with server := { server with publicAddress, privateAddress } }

/-- The application of a plan. -/
def build (plan : Plan) (tree : FileTree) (assembly : Assembly) :
    Except ConfigFailure Application × Assembly :=
  let settings := plan.named
  match Hub.load tree plan.registries settings.application.home assembly with
  | (.error failure, assembly) => (.error failure, assembly)
  | (.ok loaded, assembly) =>
      match plan.withPorts loaded.definition settings >>= Settings.checked with
      | .error failure => (.error failure, assembly)
      | .ok settings =>
          (.ok
            { name := plan.name
              settings
              hub := loaded.hub
              catalog := loaded.catalog
              registries := plan.registries },
            assembly)

end Plan

end Application

end RequestHub
