import RequestHub.Proofs.Deadline.Routine
import RequestHub.Proofs.Dispatch.Refinement

/-!
# Services whose plugins are routines

A handler runs its plugins one after another: the steps on the way in, the target, whose response is
attached, and the steps on the way out.  If the plugins are routines, so is the work of the handler, and
so is that of the service, which fails at once for a method without a handler.

`Service.starts` tells at which instants plugins begin in a dispatch.
-/

namespace RequestHub

/-! ## Work in turn -/

namespace Work

variable {σ : Type}

/-- Pieces of work one after another. -/
def inTurn : List (Work σ Unit) → Work σ Unit
  | [] => pure ()
  | work :: works => do
      work
      inTurn works

@[simp]
theorem inTurn_nil : inTurn ([] : List (Work σ Unit)) = pure () := rfl

@[simp]
theorem inTurn_cons
    (work : Work σ Unit)
    (works : List (Work σ Unit)) :
    inTurn (work :: works) = work >>= fun _ => inTurn works := rfl

@[simp]
theorem inTurn_append
    (works others : List (Work σ Unit)) :
    inTurn (works ++ others) = inTurn works >>= fun _ => inTurn others := by
  induction works with
  | nil => simp
  | cons work works ih => simp [ih]

/-- The instants at which pieces of work begin that are done one after another. -/
def starts : List (Work σ Unit) → Scope → σ → Session → List Nat
  | [], _, _, _ => []
  | work :: works, scope, subject, session =>
      session.now ::
        match work scope subject session with
        | (.done (), subject, session) => starts works scope subject session
        | (.failed _, _, _) | (.interrupted, _, _) | (.aborted, _, _) => []

end Work

namespace Handler

/-- The steps of a workflow; one that is missing has none. -/
def stepsOf (workflow : Option Workflow) : List Step :=
  (workflow.map Workflow.steps).getD []

/-- What the plugins of a handler do, one after another. -/
def parts (handler : Handler) (service : String) (context : Context) : List (Work Request Unit) :=
  (stepsOf handler.inbound).map (fun step => step.task.run context) ++
    handler.answer service context ::
      (stepsOf handler.outbound).map (fun step => step.task.run context)

theorem runSteps_eq_inTurn
    (workflow : Option Workflow)
    (context : Context) :
    runSteps workflow context =
      Work.inTurn ((stepsOf workflow).map fun step => step.task.run context) := by
  cases workflow with
  | none => rfl
  | some workflow =>
      change Workflow.runSteps context workflow.steps =
        Work.inTurn (workflow.steps.map fun step => step.task.run context)
      induction workflow.steps with
      | nil => rfl
      | cons step steps ih => simp [ih]

theorem run_eq_inTurn
    (handler : Handler)
    (service : String)
    (context : Context) :
    handler.run service context = Work.inTurn (handler.parts service context) := by
  rw [parts, Work.inTurn_append, Work.inTurn_cons, ← runSteps_eq_inTurn, ← runSteps_eq_inTurn]
  rfl

/-- The routines that the plugins of a handler are. -/
structure Routines (handler : Handler) where
  inbound : List (Routine Unit)
  target : Option (Routine (Option Response))
  outbound : List (Routine Unit)
  inbound_eq : (stepsOf handler.inbound).map (fun step => step.task.run) = inbound.map Routine.run
  target_eq : handler.target.map Target.run = target.map Routine.run
  outbound_eq :
    (stepsOf handler.outbound).map (fun step => step.task.run) = outbound.map Routine.run

namespace Routines

variable {handler : Handler}

/-- The target of a service, whose response is attached. -/
def answer (routines : handler.Routines) (service : String) : Routine Unit :=
  match routines.target with
  | none => .finish (.error (.targetNotConfigured service))
  | some target =>
      target.bind fun
        | none => .finish (.error (.emptyResponse service))
        | some response => .edit (fun request => request.attach response) (.finish (.ok ()))

/-- What the plugins do, one after another. -/
def parts (routines : handler.Routines) (service : String) : List (Routine Unit) :=
  routines.inbound ++ routines.answer service :: routines.outbound

end Routines

end Handler

/-! ## Services -/

namespace Service

/-- The routines that the plugins of a service for a method are. -/
def Routines (service : Service) (method : Method) : Type :=
  (handler : Handler) → service.handler method = some handler → handler.Routines

/-- What a service does with a request of a method. -/
def routine (service : Service) {method : Method} (routines : service.Routines method) :
    Routine Unit :=
  match found : service.handler method with
  | none => .finish (.error (.methodNotConfigured method service.name))
  | some handler => Routine.inTurn ((routines handler found).parts service.name)

section

variable {service : Service} {method : Method}

end

/-- The instants at which plugins begin in a dispatch around which nothing is. -/
def starts (service : Service) (context : Context) (span : Option Span) (request : Request)
    (session : Session) : List Nat :=
  match Dispatch.enclosed? service context session with
  | none => []
  | some (inner, session) =>
      if inner.hasEnded session then []
      else
        match service.handler request.method with
        | none => []
        | some handler =>
            Work.starts (handler.parts service.name inner) ⟨[inner], span⟩ request session

end Service

end RequestHub
