import RequestHub.Compile
import RequestHub.Health
import RequestHub.View

/-!
# The console of a hub

An operator works on a hub through a console: documents are compiled and installed, services are looked
up and added by hand, and requests are sent.  Commands and their answers are JSON objects.  A command
that fails answers with its error, and the next one finds what the failed one has left.
-/

namespace RequestHub

/-- A hub with what commands need beside it. -/
structure Console where
  hub : Hub
  health : Health
  registries : Registries
  /-- The directory in which schemas are looked up. -/
  home : String
  tree : FileTree
  assembly : Assembly
  session : Session

namespace Console

/-- A console for a hub in which nothing has been done yet. -/
def start (hub : Hub) (registries : Registries) (home : String) (tree : FileTree)
    (assembly : Assembly) (session : Session) : Console :=
  { hub, health := Health.start session, registries, home, tree, assembly, session }

/-- A part of a command, which may fail with an answer. -/
abbrev Command (α : Type) := ExceptT Json (StateM Console) α

/-- The answer to a command that could not be finished. -/
def aborted : Json := View.bare "Panic"

/-- A description that may be objected to. -/
def described {α : Type} (description : Except Objection α) : Command α := fun console =>
  (description.mapError Objection.view, console)

/-- A part of an assembly. -/
def assemble {ε α : Type} (words : ε → Json) (part : Assembling ε α) : Command α := fun console =>
  let (result, assembly) := (Assembling.explain words part).run console.assembly
  (result, { console with assembly })

/-- Something new from the session. -/
def take {α : Type} (make : Session → α × Session) : Command α := fun console =>
  let (value, session) := make console.session
  (.ok value, { console with session })

/-- Work on a subject, and what it leaves of the subject. -/
def work {σ α : Type} (work : Work σ α) (subject : σ) : Command (Outcome α × σ) := fun console =>
  let (outcome, subject, session) := work.run subject console.session
  (.ok (outcome, subject), { console with session })

/-- The outcome of work: its value, its failure, or that it was not finished. -/
def outcomeView {α : Type} (view : α → Json) : Outcome α → Json
  | .done value => view value
  | .failed failure => failure.view
  | .interrupted | .aborted => aborted

/-! ## Documents -/

/-- Documents with the paths that they would have in the home. -/
def placed {α : Type} (home : String) (documents : List α) : List (String × α) :=
  documents.zipIdx.map fun (document, index) =>
    (Path.join home (toString index ++ ".json"), document)

/-- Configures the hub from documents. -/
def configure (command : Json) : Command Json := do
  let hub ←
    match command.field? "hub" with
    | some document => described (Description.decode Definition.HubDocument.decoder document)
    | none => pure default
  let aggregates ← (command.itemsAt "aggregates").mapM fun document =>
    described (Description.decode Definition.AggregateDocument.decoder document)
  let schemas ← (command.itemsAt "schemas").mapM fun document =>
    described (Description.decode Definition.SchemasDocument.decoder document)
  let console ← get
  let home := console.home
  let documents : Home := ⟨home, hub, placed home aggregates, placed home schemas⟩
  let ((result, hub), assembly) :=
    console.hub.configure console.tree console.registries documents console.assembly
  set { console with hub, assembly }
  match result with
  | .ok catalog =>
      return Json.ofMembers [("schemas", catalog.view), ("keys", .ofStrings hub.keys)]
  | .error failure => throw failure.view

/-- The service that a command names by its interface and its name. -/
def found (command : Json) : Command (Option Service) := do
  return (← get).hub.resolve (command.textAt "api") (command.textAt "service")

/-- Compiles an aggregate, perhaps onto a service of the hub. -/
def compile (command : Json) : Command Json := do
  let document ← described
    (Description.decode Definition.AggregateDocument.decoder (command.field "aggregate"))
  let console ← get
  let begun :=
    match (command.itemsAt "onto").map Json.text with
    | [api, service] => console.hub.resolve api service
    | _ => none
  let service ← assemble ConfigFailure.view
    (Compile.aggregate console.registries begun document.spec)
  return service.view

/-- Compiles a handler. -/
def compileHandler (command : Json) : Command Json := do
  let spec ← described (Description.decode Definition.Handler.decoder (command.field "handler"))
  let (methods, handler) ← assemble Failure.view (Compile.handler (← get).registries spec)
  return Json.ofMembers
    [("methods", .ofStrings (methods.map Method.name)), ("handler", handler.view)]

/-! ## Services added by hand -/

/-- The workflow for one side of a handler, if it is given. -/
def side (spec : Json) (name : String) : Command (Option Workflow) := do
  match spec.field? name with
  | none => return none
  | some steps => do
      let steps ← steps.items.mapM fun step =>
        described (Description.decode Definition.Step.decoder step)
      return some (← assemble Failure.view (Compile.workflow (← get).registries steps))

/-- The description of a target, if it is given. -/
def targetSpec (spec : Json) : Command (Option Definition.Target) := do
  match spec.field? "target" with
  | none => return none
  | some target =>
      return some (← described (Description.decode Definition.Target.decoder target))

/-- The service with one more handler. -/
def withHandler (service : Service) (spec : Json) : Command Service := do
  let methods ← (spec.itemsAt "methods").mapM fun name =>
    described ((Method.ofString name.text).mapError Objection.failure)
  let inbound ← side spec "inbound"
  let outbound ← side spec "outbound"
  let targetSpec ← targetSpec spec
  let target ← assemble Failure.view (Compile.target (← get).registries targetSpec)
  let serial ← assemble id Assembling.handlerNumber
  let named := targetSpec.filter fun spec => !spec.name.isEmpty
  return Compile.bind service methods
    { serial, inbound, outbound, target
      targetName := named.map (·.name)
      targetType := named.map (·.type) }

/-- Adds a service with its handlers. -/
def addService (command : Json) : Command Json := do
  let bare : Service :=
    { Service.make (command.textAt "api") (command.textAt "name") with
      isPublic := command.boolAt "public"
      timeout := (command.natAt? "timeout_ms").map (· * Session.milli)
      schema :=
        match (command.itemsAt "schema").map Json.text with
        | [name, version] => some (name, version)
        | _ => none }
  let service ← (command.itemsAt "handlers").foldlM withHandler bare
  let console ← get
  let (replaced, hub) := console.hub.addService service
  set { console with hub }
  return Json.ofMembers
    [("replaced", .viewWith Service.view replaced), ("keys", .ofStrings hub.keys)]

/-! ## Requests -/

/-- A new context, perhaps one that ends after some time, perhaps one that is cancelled. -/
def context (command : Json) : Command Context := do
  let root := Context.ofToken (← take fun session => session.freshToken [])
  let context ←
    match command.natAt? "within_ms" with
    | none => pure root
    | some millis => do
        match ← work (Work.child root (millis * Session.milli)) () with
        | (.done context, _) => pure context
        | _ => throw aborted
  if command.boolAt "cancelled" then
    modify fun console => { console with session := console.session.cancel context.token }
  return context

/-- The time from one session to a later one, in milliseconds. -/
def elapsed (before after : Session) : Nat :=
  (after.now - before.now) / Session.milli

/-- Sends a request that arrives from outside. -/
def request (command : Json) : Command Json := do
  let raw ← described (Description.raw command)
  let context ← context (if command.boolAt "own_context" then .null else command)
  let console ← get
  let (outcome, session) := console.hub.handleRaw context raw console.session
  set { console with session }
  let shown :=
    match outcome with
    | .done (.ok response) => [("ok", response.view)]
    | .done (.error failed) => [("failure", failed.view)]
    | _ => aborted.members
  return Json.ofMembers (shown ++
    [("elapsed_ms", .ofNat (elapsed console.session session)),
      ("context_cancelled", .bool (context.hasEnded session))])

/-- Sends a request to a service directly. -/
def dispatch (command : Json) : Command Json := do
  let id ← take Session.freshId
  let request ← described (Description.made id command)
  match ← found command with
  | none => return .null
  | some service => do
      let (outcome, request) ← work (service.dispatch (← context .null)) request
      return Json.ofMembers
        [("result", outcomeView (fun _ => .null) outcome), ("request", request.view)]

/-! ## Looking at the hub -/

/-- The hub and the handler of a service in words. -/
def debug (command : Json) : Command Json := do
  let handler := (← found command).bind fun service => service.handler .get
  return Json.ofMembers
    [("hub", .string (← get).hub.summary), ("get_handler", .ofString? (handler.map Handler.summary))]

/-- The reports on the health of the hub; how long it has run is left out. -/
def healthReport (command : Json) : Command Json := do
  if let some isReady := command.boolAt? "ready" then
    modify fun console => { console with health := { console.health with isReady } }
  let console ← get
  let report := (console.health.report console.hub console.session).members
  return Json.ofMembers
    [("health", Json.ofMembers (report ++ [("uptimeSeconds", .null)])),
      ("readiness", console.health.readiness console.hub), ("is_ready", .bool console.health.isReady)]

/-- The answer to a command. -/
def answer (command : Json) : Command Json := do
  match command.textAt "do" with
  | "configure" => configure command
  | "compile" => compile command
  | "compile_handler" => compileHandler command
  | "add_service" => addService command
  | "resolve" => return .viewWith Service.view (← found command)
  | "describe" => return (← get).hub.view
  | "debug" => debug command
  | "health" => healthReport command
  | "request" => request command
  | "dispatch" => dispatch command
  | _ => throw (View.bare "UnknownCommand")

/-- Runs a command; the answer tells what was logged meanwhile. -/
def run (console : Console) (command : Json) : Json × Console :=
  let (result, next) := (answer command).run console
  let shown :=
    match result with
    | .ok value => value
    | .error value => value
  match next.session.log.drop console.session.log.length with
  | [] => (shown, next)
  | logged =>
      (Json.ofMembers (shown.members ++ [("logs", .array (logged.map LogEntry.view))]), next)

/-- Runs commands one after another. -/
def runAll (console : Console) (commands : List Json) : List Json × Console :=
  commands.foldl
    (fun (answers, console) command =>
      let (shown, console) := console.run command
      (answers ++ [shown], console))
    ([], console)

/-- How often each target of a type was called, in the order in which they were made. -/
def calls (console : Console) (label : String) : List Nat :=
  (console.assembly.calls.filter fun call => call.ofTarget && call.label = label).map fun call =>
    console.session.calls call.serial

end Console

end RequestHub
