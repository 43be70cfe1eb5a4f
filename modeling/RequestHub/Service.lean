import RequestHub.Workflow

/-!
# Services

A service answers the requests for one routing key.  For each method that it supports it has
a handler: the steps that run on the way in, the target, and the steps that run on the way out.  The
time of a service's work may be limited.
-/

namespace RequestHub

/-- How a service answers requests of some methods. -/
structure Handler where
  /-- Tells the handler from others that are built alike. -/
  serial : Nat
  inbound : Option Workflow
  outbound : Option Workflow
  target : Option Target
  targetName : Option String
  targetType : Option String
deriving Inhabited

namespace Handler

/-- The handler in words. -/
def summary (handler : Handler) : String :=
  Text.record "Handler"
    [("inbound", Text.optional (handler.inbound.map Workflow.summary)),
      ("outbound", Text.optional (handler.outbound.map Workflow.summary)),
      ("target_name", Text.optional (handler.targetName.map Text.quoted)),
      ("target_type", Text.optional (handler.targetType.map Text.quoted)),
      ("has_target", if handler.target.isSome then "true" else "false")]
    true

/-- Runs the steps of a workflow, if there is one. -/
def runSteps (workflow : Option Workflow) (context : Context) : Work Request Unit :=
  match workflow with
  | some workflow => workflow.run context
  | none => pure ()

/-- The steps on the way in. -/
def enter (handler : Handler) (context : Context) : Work Request Unit :=
  runSteps handler.inbound context

/-- The target, whose response is attached to the request. -/
def answer (handler : Handler) (service : String) (context : Context) : Work Request Unit := do
  match handler.target with
  | none => Work.fail (.targetNotConfigured service)
  | some target => do
      match ← target.run context with
      | none => Work.fail (.emptyResponse service)
      | some response => Work.modify fun request => request.attach response

/-- The steps on the way out. -/
def leave (handler : Handler) (context : Context) : Work Request Unit :=
  runSteps handler.outbound context

/-- The way of a request through a handler of a service. -/
def run (handler : Handler) (service : String) (context : Context) : Work Request Unit := do
  handler.enter context
  handler.answer service context
  handler.leave context

end Handler

/-- What answers the requests for one routing key. -/
structure Service where
  api : String
  name : String
  /-- The name and the version of the schema of its documents. -/
  schema : Option (String × String)
  isPublic : Bool
  /-- The time that its work may take, in nanoseconds. -/
  timeout : Option Nat
  handler : Method → Option Handler
deriving Inhabited

namespace Service

/-- A service without handlers. -/
def make (api name : String) : Service :=
  { api, name, schema := none, isPublic := false, timeout := none, handler := fun _ => none }

/-- The key under which the service is found. -/
def key (service : Service) : String :=
  routingKey service.api service.name

/-- The service with a handler for a method, in the place of the one it had. -/
def setHandler (service : Service) (method : Method) (handler : Handler) : Service :=
  { service with
    handler := fun other => if other = method then some handler else service.handler other }

/-- The methods that the service supports, in order. -/
def methods (service : Service) : List Method :=
  Method.all.filter fun method => (service.handler method).isSome

/-- The work of the service on a request whose time is not limited any more. -/
def handle (service : Service) (context : Context) : Work Request Unit := do
  let request ← Work.request
  match service.handler request.method with
  | none => Work.fail (.methodNotConfigured request.method service.name)
  | some handler => handler.run service.name context

/-- The work of the service on a request. -/
def dispatch (service : Service) (context : Context) : Work Request Unit := do
  match service.timeout with
  | some timeout => do
      let context ← Work.child context timeout
      Work.within context (service.handle context)
  | none => Work.within context (service.handle context)

end Service

end RequestHub
