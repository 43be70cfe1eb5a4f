import RequestHub.Proofs.Dispatch.Course

/-!
# Hubs follow the stages

While the contexts of a dispatch last, a hub answers a request as the stages say: it makes the calls of
the one run that they allow, in that order, and answers with the answer of that run.

`Follows` relates a part of the work of a hub to the part of a run that it amounts to.  Parts that
follow each other compose, so that the way of a request through a handler is read off from the three
parts of the handler.
-/

namespace RequestHub

/-- The end of work that ends by itself. -/
def Outcome.ofResult {α : Type} : Except Failure α → Outcome α
  | .ok value => .done value
  | .error failure => .failed failure

namespace Dispatch

/-! ## Contexts that last -/

/-- Work that ends with a value or a failure, not because a context around it cuts it off. -/
def EndsItself {α : Type}
    (work : Work Request α) (scope : Scope) (request : Request) (session : Session) : Prop :=
  ∃ result, (work scope request session).1 = Outcome.ofResult result

/-- The plugin that is called next is not cut off. -/
def Settled (scope : Scope) (position : Position) : Prop :=
  match position.stage with
  | .underway way passage index =>
      ∀ step, (passage.steps way)[index]? = some step →
        EndsItself (step.task.run passage.context) (passage.scope scope)
          position.request position.session
  | .passed .inward passage =>
      ∀ target, passage.handler.target = some target →
        EndsItself (target.run passage.context) (passage.scope scope)
          position.request position.session
  | _ => True

/-- The contexts of a dispatch have not ended when it begins, and cut off none of its plugins. -/
structure Lasting
    (hub : Hub) (context : Context) (scope : Scope) (request : Request) (session : Session) :
    Prop where
  opens : ∀ {service}, hub.resolve request.route.api request.route.service = some service →
    ∃ inner later, Opens hub context request session service inner later
  settled : ∀ {calls position},
    Run hub context scope ⟨.received, request, session⟩ calls position → Settled scope position

section

variable {hub : Hub} {context : Context} {scope : Scope}

/-- No plugin of a passage ever waits, so that none can be cut off. -/
structure Passage.Instant (passage : Passage) (scope : Scope) : Prop where
  step : ∀ {way step}, step ∈ passage.steps way → ∀ request session,
    EndsItself (step.task.run passage.context) (passage.scope scope) request session
  target : ∀ {target}, passage.handler.target = some target → ∀ request session,
    EndsItself (target.run passage.context) (passage.scope scope) request session

theorem Passage.Instant.settled
    {passage : Passage} {calls : List Call} {position : Position}
    (instant : passage.Instant scope) (accounts : passage.Accounts calls position) :
    Settled scope position := by
  unfold Settled
  unfold Passage.Accounts at accounts
  split
  · rename_i at_way
    rw [at_way] at accounts
    rcases accounts with ⟨rfl, -⟩
    exact fun step ahead => instant.step (List.mem_of_getElem? ahead) _ _
  · rename_i at_target
    rw [at_target] at accounts
    rcases accounts with ⟨rfl, -⟩
    exact fun target found => instant.target found _ _
  · trivial

/-- Plugins that never wait need contexts that have not ended when the dispatch begins. -/
theorem Lasting.of_instant
    {request : Request} {session : Session}
    (opens : ∀ {service}, hub.resolve request.route.api request.route.service = some service →
      ∃ inner later, Opens hub context request session service inner later)
    (instant : ∀ {passage : Passage},
      hub.resolve request.route.api request.route.service = some passage.service →
      passage.service.handler request.method = some passage.handler → passage.Instant scope) :
    Lasting hub context scope request session where
  opens := opens
  settled run := by
    cases run with
    | refl => trivial
    | move head tail =>
        cases head with
        | serviceMissing =>
            rcases tail.of_rendered with ⟨-, rfl⟩
            trivial
        | handlerMissing =>
            rcases tail.of_rendered with ⟨-, rfl⟩
            trivial
        | route opens found => exact (instant opens.found found).settled tail.accounts

theorem EndsItself.cases
    {α : Type} {work : Work Request α} {request : Request} {session : Session}
    (ends : EndsItself work scope request session) :
    ∃ result changed later,
      work scope request session = (Outcome.ofResult result, changed, later) := by
  rcases ends with ⟨result, equal⟩
  exact ⟨result, _, _, Prod.ext equal rfl⟩

/-! ## Parts of the work and parts of a run -/

/-- The position behind a part of a passage: the stage that it leads to, or the end of the passage. -/
def Position.behind (stage : Stage) (passage : Passage) :
    Except Failure Unit → Request → Session → Position
  | .ok _, request, session => ⟨stage, request, session⟩
  | .error failure, request, session => .failing passage failure request session

/-- Work that makes of a position what a run from there makes of it, on the way to a stage. -/
def Follows
    (hub : Hub) (context : Context) (scope : Scope) (passage : Passage)
    (first : Position) (stage : Stage) (work : Work Request Unit) : Prop :=
  ∃ calls result changed later,
    Run hub context scope first calls (.behind stage passage result changed later) ∧
    work (passage.scope scope) first.request first.session =
      (Outcome.ofResult result, changed, later)

/-- Every position that can be reached from a position is settled. -/
def SettledFrom (hub : Hub) (context : Context) (scope : Scope) (first : Position) : Prop :=
  ∀ {calls position}, Run hub context scope first calls position → Settled scope position

theorem SettledFrom.onward
    {first middle : Position} {calls : List Call}
    (settled : SettledFrom hub context scope first)
    (run : Run hub context scope first calls middle) :
    SettledFrom hub context scope middle :=
  fun onward => settled (run.trans onward)

/-- One part after another; the second part begins where the first one leads. -/
theorem Follows.bind
    {passage : Passage} {first : Position} {middle last : Stage} {work next : Work Request Unit}
    (settled : SettledFrom hub context scope first)
    (follows : Follows hub context scope passage first middle work)
    (onward : ∀ {request session},
      SettledFrom hub context scope ⟨middle, request, session⟩ →
        Follows hub context scope passage ⟨middle, request, session⟩ last next) :
    Follows hub context scope passage first last (work >>= fun _ => next) := by
  rcases follows with ⟨calls, result, changed, later, run, ended⟩
  cases result with
  | error failure =>
      exact ⟨calls, .error failure, changed, later, run, Work.bind_of_failed ended _⟩
  | ok =>
      rcases onward (settled.onward run) with ⟨others, result, changed, later, rest, finished⟩
      exact ⟨calls ++ others, result, changed, later, run.trans rest,
        (Work.bind_of_done ended _).trans finished⟩

/-- The steps of a way that are ahead. -/
theorem follows_steps
    (way : Way) (passage : Passage) (index : Nat) (request : Request) (session : Session)
    (settled : SettledFrom hub context scope ⟨.underway way passage index, request, session⟩) :
    Follows hub context scope passage ⟨.underway way passage index, request, session⟩
      (.passed way passage)
      (Workflow.runSteps passage.context ((passage.steps way).drop index)) := by
  induction remaining : (passage.steps way).drop index generalizing index request session with
  | nil =>
      have none_ahead : (passage.steps way)[index]? = none :=
        List.getElem?_eq_none (List.drop_eq_nil_iff.mp remaining)
      exact ⟨[], .ok (), request, session, .single (.stepsDone none_ahead), rfl⟩
  | cons step steps ih =>
      have ahead : (passage.steps way)[index]? = some step := by
        have first := congrArg (·[0]?) remaining
        simpa using first
      have behind : (passage.steps way).drop (index + 1) = steps := by
        rw [← List.drop_drop, remaining]
        rfl
      rcases (settled (.refl _) step ahead).cases with ⟨result, changed, later, ended⟩
      cases result with
      | error failure =>
          exact ⟨_, .error failure, changed, later, .single (.stepFailed ahead ended),
            Work.bind_of_failed ended _⟩
      | ok =>
          have moved : Run hub context scope ⟨.underway way passage index, request, session⟩
              [.step way index] ⟨.underway way passage (index + 1), changed, later⟩ :=
            .single (.stepDone ahead ended)
          obtain ⟨calls, result, changed, later, run, finished⟩ :=
            ih (index + 1) changed later (settled.onward moved) behind
          exact ⟨_, result, changed, later, moved.trans run,
            (Work.bind_of_done ended _).trans finished⟩

/-- The target, whose response is attached. -/
theorem follows_answer
    (passage : Passage) (request : Request) (session : Session)
    (settled : SettledFrom hub context scope ⟨.inboundApplied passage, request, session⟩) :
    Follows hub context scope passage ⟨.inboundApplied passage, request, session⟩
      (.targeted passage) (passage.handler.answer passage.service.name passage.context) := by
  unfold Handler.answer
  cases present : passage.handler.target with
  | none =>
      exact ⟨[], .error (.targetNotConfigured passage.service.name), request, session,
        .single (.targetMissing present), rfl⟩
  | some target =>
      rcases (settled (.refl _) target present).cases with ⟨result, changed, later, ended⟩
      cases result with
      | error failure =>
          exact ⟨_, .error failure, changed, later, .single (.targetFailed present ended),
            Work.bind_of_failed ended _⟩
      | ok response =>
          cases response with
          | none =>
              exact ⟨_, .error (.emptyResponse passage.service.name), changed, later,
                .single (.targetSilent present ended), Work.bind_of_done ended _⟩
          | some response =>
              exact ⟨_, .ok (), changed.attach response, later,
                .single (.targetAnswered present ended), Work.bind_of_done ended _⟩

/-- The steps of a workflow, be it there or not, are the steps of the way. -/
theorem runSteps_eq (workflow : Option Workflow) (context : Context) :
    Handler.runSteps workflow context =
      Workflow.runSteps context ((workflow.map Workflow.steps).getD []) := by
  cases workflow <;> rfl

/-- The whole way through a handler. -/
theorem follows_handler
    (passage : Passage) (request : Request) (session : Session)
    (settled : SettledFrom hub context scope ⟨.routed passage, request, session⟩) :
    Follows hub context scope passage ⟨.routed passage, request, session⟩
      (.outboundApplied passage)
      (passage.handler.run passage.service.name passage.context) := by
  have entered := follows_steps .inward passage 0 request session settled
  refine Follows.bind settled ?_ fun answering =>
    Follows.bind answering (follows_answer passage _ _ answering) fun leaving => ?_
  · rw [Handler.enter, runSteps_eq]
    exact entered
  · rw [Handler.leave, runSteps_eq]
    exact follows_steps .outward passage 0 _ _ leaving

/-! ## From the arrival to the answer -/

/-- Before it handles a request, a service makes the context for it. -/
theorem dispatch_of_enclosed
    {service : Service} {context inner : Context} {request : Request} {session later : Session}
    (enclosed : enclosed? service context session = some (inner, later)) :
    service.dispatch context scope request session =
      Work.within inner (service.handle inner) scope request later := by
  unfold enclosed? at enclosed
  unfold Service.dispatch
  cases limit : service.timeout with
  | none =>
      rw [limit] at enclosed
      cases enclosed
      rfl
  | some timeout =>
      rw [limit] at enclosed
      have derived : context.child? timeout session = some (inner, later) := enclosed
      have made :
          Work.child context timeout scope request session = (.done inner, request, later) := by
        rw [Work.child, derived]
      exact Work.bind_of_done made _

/-- Without a context to work in a service is aborted. -/
theorem dispatch_of_unenclosed
    {service : Service} {context : Context} {request : Request} {session : Session}
    (unenclosed : enclosed? service context session = none) :
    service.dispatch context scope request session = (.aborted, request, session) := by
  unfold enclosed? at unenclosed
  unfold Service.dispatch
  cases limit : service.timeout with
  | none =>
      rw [limit] at unenclosed
      cases unenclosed
  | some timeout =>
      rw [limit] at unenclosed
      have underived : context.child? timeout session = none := unenclosed
      refine Work.bind_of_aborted ?_ _
      rw [Work.child, underived]

/-- To make a context takes a token, and changes nothing else in the session. -/
theorem eq_of_enclosed
    {service : Service} {context inner : Context} {session later : Session}
    (enclosed : enclosed? service context session = some (inner, later)) :
    later = { session with made := later.made } := by
  unfold enclosed? at enclosed
  cases limit : service.timeout with
  | none =>
      rw [limit] at enclosed
      cases enclosed
      rfl
  | some timeout =>
      rw [limit] at enclosed
      have derived : context.child? timeout session = some (inner, later) := enclosed
      rcases (Context.child?_eq_some_iff ..).mp derived with ⟨-, -, rfl⟩
      rfl

theorem Opens.dispatch_eq
    {request : Request} {session later : Session} {service : Service} {inner : Context}
    (opens : Opens hub context request session service inner later) :
    service.dispatch (context.forRequest request.id) scope request session =
      Work.within inner (service.handle inner) scope request later :=
  dispatch_of_enclosed opens.enclosed

theorem handle_of_handler
    {service : Service} {inner : Context} {request : Request} {session : Session}
    {handler : Handler} (found : service.handler request.method = some handler) :
    service.handle inner scope request session =
      handler.run service.name inner scope request session := by
  have asked : Work.request scope request session = (.done request, request, session) := rfl
  rw [Service.handle, Work.bind_of_done asked, found]

theorem handle_of_no_handler
    {service : Service} {inner : Context} {request : Request} {session : Session}
    (missing : service.handler request.method = none) :
    service.handle inner scope request session =
      (Outcome.ofResult (.error (.methodNotConfigured request.method service.name)), request,
        session) := by
  have asked : Work.request scope request session = (.done request, request, session) := rfl
  rw [Service.handle, Work.bind_of_done asked, missing]
  rfl

/-- A hub that has found a service dispatches to it. -/
theorem route_of_found
    {request : Request} {session : Session} {service : Service}
    (found : hub.resolve request.route.api request.route.service = some service) :
    hub.route context scope request session =
      (Work.attempt (service.dispatch (context.forRequest request.id)) >>=
        Hub.conclude service request.id) scope request session := by
  have asked : Work.request scope request session = (.done request, request, session) := rfl
  rw [Hub.route, Work.bind_of_done asked, found]

/-- It concludes with the end of the dispatch. -/
theorem route_eq
    {request changed : Request} {session opened later : Session} {service : Service}
    {inner : Context} {result : Except Failure Unit}
    (opens : Opens hub context request session service inner opened)
    (ended : service.handle inner { scope with bounds := inner :: scope.bounds } request opened =
      (Outcome.ofResult result, changed, later)) :
    hub.route context scope request session =
      Hub.conclude service request.id result scope changed later := by
  rw [route_of_found opens.found]
  refine Work.bind_of_done ?_ _
  cases result with
  | error failure =>
      exact Work.attempt_of_failed
        (opens.dispatch_eq.trans (Work.within_of_failed opens.lasts ended))
  | ok =>
      exact Work.attempt_of_done
        (opens.dispatch_eq.trans (Work.within_of_done opens.lasts ended))

/-- The conclusion of a passage is the answer of its run. -/
theorem conclude_follows
    {first : Position} {passage : Passage} {calls : List Call} {result : Except Failure Unit}
    {request : Request} {session : Session}
    (run : Run hub context scope first calls
      (.behind (.outboundApplied passage) passage result request session)) :
    ∃ answer,
      Hub.conclude passage.service passage.id result scope request session =
        (.done answer, request.detach, session) ∧
      Run hub context scope first calls ⟨.rendered answer, request.detach, session⟩ := by
  have taken :
      Hub.takeResponse scope request session = (.done request.response, request.detach, session) :=
    rfl
  rw [Hub.conclude, Work.bind_of_done taken]
  cases result with
  | error failure => exact ⟨_, rfl, run⟩
  | ok =>
      cases attached : request.response with
      | some response =>
          exact ⟨.ok response, rfl, by simpa using run.trans (.single (.answered attached))⟩
      | none => exact ⟨_, rfl, by simpa using run.trans (.single (.detached attached))⟩

end

end Dispatch

end RequestHub
