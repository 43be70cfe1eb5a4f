import RequestHub.Catalog
import RequestHub.Duration
import RequestHub.Home
import RequestHub.Hub
import RequestHub.Registry

/-!
# Compiling documents

The aggregates of a home become services.  Each step and each target that is not switched off becomes
a plugin, made by the factory for its type.  Aggregates for one routing key make one service together,
in the order of their documents.  Nothing is changed in a hub before all documents are compiled, so
that a failure leaves the hub as it was.
-/

namespace RequestHub

namespace Compile

/-- The workflow of some steps; steps that are switched off are left out. -/
def workflow (registries : Registries) (steps : List Definition.Step) :
    Assembling Failure Workflow := do
  let made ← (steps.filter (·.enabled)).mapM fun step => do
    let task ← Assembling.task registries step.type step.config
    return {
      name := step.name
      precedence := step.precedence
      taskType := step.type
      description := step.description
      task : Step }
  return Workflow.ofSteps made

/-- The target of a handler, if it has one. -/
def target (registries : Registries) (spec : Option Definition.Target) :
    Assembling Failure (Option Target) :=
  match spec with
  | none => return none
  | some spec => do return some (← Assembling.target registries spec.type spec.config)

/-- The methods of a handler. -/
def methods (names : List String) : Except Failure (List Method) :=
  names.mapM Method.ofString

/-- The methods of a handler and the handler. -/
def handler (registries : Registries) (spec : Definition.Handler) :
    Assembling Failure (List Method × Handler) := do
  let methods ← liftExcept (methods spec.methods)
  let inbound ← workflow registries spec.inbound
  let outbound ← workflow registries spec.outbound
  let target ← target registries spec.target
  let serial ← Assembling.handlerNumber
  return (methods,
    { serial
      inbound := some inbound
      outbound := some outbound
      target
      targetName := spec.target.map (·.name)
      targetType := spec.target.map (·.type) })
where
  /-- A part that calls no factory. -/
  liftExcept {α : Type} (result : Except Failure α) : Assembling Failure α := fun assembly =>
    (result, assembly)

/-- A handler in the words of a message: its place and its methods. -/
def handlerLabel (index : Nat) (spec : Definition.Handler) : String :=
  "#" ++ toString index ++ " [" ++ String.intercalate ", " spec.methods ++ "]"

/-- The service with a handler for some methods. -/
def bind (service : Service) (methods : List Method) (handler : Handler) : Service :=
  methods.foldl (fun service method => service.setHandler method handler) service

/-- The service with the handlers of an aggregate, from the given place on. -/
def handlers (registries : Registries) (aggregate : String) (index : Nat) (service : Service) :
    List Definition.Handler → Assembling ConfigFailure Service
  | [] => return service
  | spec :: specs => do
      let label := handlerLabel index spec
      if spec.methods.isEmpty then
        throw (.invalidValue ("aggregate " ++ aggregate ++ " handler " ++ label)
          "at least one method is required")
      else do
        let (methods, made) ← Assembling.explain (.aggregate aggregate (some label))
          (handler registries spec)
        handlers registries aggregate (index + 1) (bind service methods made) specs

/-- The service as an aggregate describes it, apart from the handlers. -/
def describe (spec : Definition.Aggregate) (service : Service) : Service :=
  { service with
    isPublic := spec.isPublic
    schema :=
      match spec.schemaName with
      | some name => some (name, spec.schemaVersion.getD "")
      | none => service.schema
    timeout :=
      match spec.timeout with
      | some (millis + 1) => some ((millis + 1) * Duration.milli)
      | _ => service.timeout }

/-- A service, begun by other aggregates or not, with what an aggregate adds to it. -/
def aggregate (registries : Registries) (begun : Option Service) (spec : Definition.Aggregate) :
    Assembling ConfigFailure Service :=
  if spec.name.isEmpty || spec.api.isEmpty then
    throw (.invalidValue "aggregate.spec" "name and apiName are required")
  else
    let service := describe spec (begun.getD (Service.make spec.api spec.name))
    handlers registries spec.name 0 service spec.handlers

/-- The services of some aggregates by their routing keys, beside those begun before. -/
def aggregates (registries : Registries) (begun : Names Service) :
    List Definition.Aggregate → Assembling ConfigFailure (Names Service)
  | [] => return begun
  | spec :: specs => do
      let key := routingKey spec.api spec.name
      let service ← aggregate registries (begun.find? key) spec
      aggregates registries (Names.insert key service begun) specs

/-- The schemas of some lists. -/
def schemas (tree : FileTree) (directory : String) (catalog : Catalog) :
    List Definition.Schemas → Except ConfigFailure Catalog
  | [] => .ok catalog
  | list :: lists =>
      match catalog.load tree directory list with
      | (.ok _, catalog) => schemas tree directory catalog lists
      | (.error failure, _) => .error failure

/-- The schemas and the services of a home. -/
def home (tree : FileTree) (registries : Registries) (home : Home) :
    Assembling ConfigFailure (Catalog × Names Service) := fun assembly =>
  match schemas tree (Path.join home.path "schemas") .empty (home.schemas.map (·.2.spec)) with
  | .error failure => (.error failure, assembly)
  | .ok catalog =>
      match aggregates registries [] (home.aggregates.map (·.2.spec)) assembly with
      | (.ok services, assembly) => (.ok (catalog, services), assembly)
      | (.error failure, assembly) => (.error failure, assembly)

end Compile

namespace Hub

/-- The hub with some services, each in the place of the one it had under the key. -/
def installAll (hub : Hub) (services : List Service) : Hub :=
  services.foldl install hub

/-- Configures a hub from the documents of a home; a failure leaves the hub as it was. -/
def configure (hub : Hub) (tree : FileTree) (registries : Registries) (home : Home)
    (assembly : Assembly) : (Except ConfigFailure Catalog × Hub) × Assembly :=
  match Compile.home tree registries home assembly with
  | (.ok (catalog, services), assembly) =>
      ((.ok catalog, hub.installAll services.values), assembly)
  | (.error failure, assembly) => ((.error failure, hub), assembly)

/-- What loading a home gives. -/
structure Loaded where
  hub : Hub
  definition : Definition.Hub
  catalog : Catalog
deriving Inhabited

/-- Loads a hub from the documents of a home. -/
def load (tree : FileTree) (registries : Registries) (path : String) (assembly : Assembly) :
    Except ConfigFailure Loaded × Assembly :=
  match Home.read tree path with
  | .error failure => (.error failure, assembly)
  | .ok home =>
      let definition := home.hub.spec
      let hub := { Hub.make definition.application with version := definition.version }
      match hub.configure tree registries home assembly with
      | ((.ok catalog, hub), assembly) => (.ok ⟨hub, definition, catalog⟩, assembly)
      | ((.error failure, _), assembly) => (.error failure, assembly)

end Hub

end RequestHub
