import RequestHub.Hub

/-!
# The stages of a dispatch

A request that a hub handles is routed, passes the steps on the way in, is answered by the target,
passes the steps on the way out, and is rendered.  Here that course is a transition system of its own:
a `Position` is a stage with the request and the session as they are there, and a `Move` is what one
call of a plugin, or one decision of the hub, makes of it.  Every move names the plugin that it calls.

A move exists only while the contexts of the dispatch last: a plugin whose work is cut off leaves its
position without a move.  What a hub does at such a position is not described here.
-/

namespace RequestHub.Dispatch

/-- The two ways through a handler. -/
inductive Way where
  | inward
  | outward
deriving DecidableEq, Repr

/-- A call of a plugin: a step by its place in the workflow of a way, or the target. -/
inductive Call where
  | step (way : Way) (index : Nat)
  | target
deriving DecidableEq, Repr

/-- The calls of the first steps of a way, in order. -/
def stepCalls (way : Way) (count : Nat) : List Call :=
  (List.range count).map (.step way)

@[simp]
theorem stepCalls_zero (way : Way) : stepCalls way 0 = [] := rfl

@[simp]
theorem stepCalls_succ (way : Way) (count : Nat) :
    stepCalls way (count + 1) = stepCalls way count ++ [.step way count] := by
  simp [stepCalls, List.range_succ]

@[simp]
theorem mem_stepCalls_iff
    (way : Way) (count : Nat) (call : Call) :
    call ∈ stepCalls way count ↔ ∃ index < count, call = .step way index := by
  simp [stepCalls, eq_comm]

/-- What a routed request passes: a handler of a service, in a context of the request's own. -/
structure Passage where
  service : Service
  handler : Handler
  /-- The context that the plugins are given. -/
  context : Context
  /-- The request that was routed. -/
  id : Uuid

namespace Passage

/-- The steps of a way, in the order in which they run; a workflow that is missing has none. -/
def steps (passage : Passage) : Way → List Step
  | .inward => (passage.handler.inbound.map Workflow.steps).getD []
  | .outward => (passage.handler.outbound.map Workflow.steps).getD []

/-- What is around the plugins of a passage. -/
def scope (passage : Passage) (outer : Scope) : Scope :=
  { outer with bounds := passage.context :: outer.bounds }

/-- The calls of a passage that nothing stops. -/
def course (passage : Passage) : List Call :=
  stepCalls .inward (passage.steps .inward).length ++
    .target :: stepCalls .outward (passage.steps .outward).length

end Passage

/-- How far a request has come. -/
inductive Stage where
  /-- It has arrived and is not routed yet. -/
  | received
  /-- So many steps of a way have run, and the others are ahead. -/
  | underway (way : Way) (passage : Passage) (index : Nat)
  /-- All steps of a way have run. -/
  | passed (way : Way) (passage : Passage)
  /-- It has its answer. -/
  | rendered (answer : Except FailedRequest Response)

namespace Stage

/-- The request names a service with a handler for its method. -/
abbrev routed (passage : Passage) : Stage := .underway .inward passage 0

abbrev inboundApplied (passage : Passage) : Stage := .passed .inward passage

/-- The target has answered. -/
abbrev targeted (passage : Passage) : Stage := .underway .outward passage 0

abbrev outboundApplied (passage : Passage) : Stage := .passed .outward passage

end Stage

/-- A stage with the request and the session as they are there. -/
structure Position where
  stage : Stage
  request : Request
  session : Session

/-- A passage that ends with a failure takes the attached response along. -/
def Position.failing
    (passage : Passage) (failure : Failure) (request : Request) (session : Session) : Position :=
  { stage := .rendered
      (.error ⟨Hub.dispatchStatus failure, failure, some passage.id, request.response⟩)
    request := request.detach
    session }

/-- The context in which a service works, if its deadline is an instant at all. -/
def enclosed? (service : Service) (context : Context) (session : Session) :
    Option (Context × Session) :=
  match service.timeout with
  | some timeout => context.child? timeout session
  | none => some (context, session)

/-- A service is found, and its context has not ended. -/
structure Opens
    (hub : Hub) (context : Context) (request : Request) (session : Session)
    (service : Service) (inner : Context) (later : Session) : Prop where
  found : hub.resolve request.route.api request.route.service = some service
  enclosed : enclosed? service (context.forRequest request.id) session = some (inner, later)
  lasts : inner.hasEnded later = false

section

variable (hub : Hub) (context : Context) (scope : Scope)

/-- What one call of a plugin, or one decision of the hub, makes of a position. -/
inductive Move : Position → List Call → Position → Prop where
  | serviceMissing {request : Request} {session : Session}
      (missing : hub.resolve request.route.api request.route.service = none) :
      Move ⟨.received, request, session⟩ []
        ⟨.rendered (.error
            ⟨.notFound, .serviceNotFound request.route.api request.route.service,
              some request.id, none⟩),
          request, session⟩
  | handlerMissing {request : Request} {session later : Session} {service : Service}
      {inner : Context}
      (opens : Opens hub context request session service inner later)
      (missing : service.handler request.method = none) :
      Move ⟨.received, request, session⟩ []
        ⟨.rendered (.error
            ⟨.internalServerError, .methodNotConfigured request.method service.name,
              some request.id, request.response⟩),
          request.detach, later⟩
  | route {request : Request} {session later : Session} {service : Service} {handler : Handler}
      {inner : Context}
      (opens : Opens hub context request session service inner later)
      (found : service.handler request.method = some handler) :
      Move ⟨.received, request, session⟩ []
        ⟨.routed ⟨service, handler, inner, request.id⟩, request, later⟩
  | stepDone {way : Way} {passage : Passage} {index : Nat} {step : Step}
      {request changed : Request} {session later : Session}
      (ahead : (passage.steps way)[index]? = some step)
      (ended : step.task.run passage.context (passage.scope scope) request session =
        (.done (), changed, later)) :
      Move ⟨.underway way passage index, request, session⟩ [.step way index]
        ⟨.underway way passage (index + 1), changed, later⟩
  | stepFailed {way : Way} {passage : Passage} {index : Nat} {step : Step} {failure : Failure}
      {request changed : Request} {session later : Session}
      (ahead : (passage.steps way)[index]? = some step)
      (ended : step.task.run passage.context (passage.scope scope) request session =
        (.failed failure, changed, later)) :
      Move ⟨.underway way passage index, request, session⟩ [.step way index]
        (.failing passage failure changed later)
  | stepsDone {way : Way} {passage : Passage} {index : Nat} {request : Request} {session : Session}
      (none_ahead : (passage.steps way)[index]? = none) :
      Move ⟨.underway way passage index, request, session⟩ []
        ⟨.passed way passage, request, session⟩
  | targetMissing {passage : Passage} {request : Request} {session : Session}
      (missing : passage.handler.target = none) :
      Move ⟨.inboundApplied passage, request, session⟩ []
        (.failing passage (.targetNotConfigured passage.service.name) request session)
  | targetAnswered {passage : Passage} {target : Target} {response : Response}
      {request changed : Request} {session later : Session}
      (found : passage.handler.target = some target)
      (ended : target.run passage.context (passage.scope scope) request session =
        (.done (some response), changed, later)) :
      Move ⟨.inboundApplied passage, request, session⟩ [.target]
        ⟨.targeted passage, changed.attach response, later⟩
  | targetSilent {passage : Passage} {target : Target}
      {request changed : Request} {session later : Session}
      (found : passage.handler.target = some target)
      (ended : target.run passage.context (passage.scope scope) request session =
        (.done none, changed, later)) :
      Move ⟨.inboundApplied passage, request, session⟩ [.target]
        (.failing passage (.emptyResponse passage.service.name) changed later)
  | targetFailed {passage : Passage} {target : Target} {failure : Failure}
      {request changed : Request} {session later : Session}
      (found : passage.handler.target = some target)
      (ended : target.run passage.context (passage.scope scope) request session =
        (.failed failure, changed, later)) :
      Move ⟨.inboundApplied passage, request, session⟩ [.target]
        (.failing passage failure changed later)
  | answered {passage : Passage} {request : Request} {session : Session} {response : Response}
      (attached : request.response = some response) :
      Move ⟨.outboundApplied passage, request, session⟩ []
        ⟨.rendered (.ok response), request.detach, session⟩
  | detached {passage : Passage} {request : Request} {session : Session}
      (missing : request.response = none) :
      Move ⟨.outboundApplied passage, request, session⟩ []
        ⟨.rendered (.error
            ⟨.internalServerError, .emptyResponse passage.service.name, some passage.id, none⟩),
          request.detach, session⟩

/-- Moves one after another, with all the calls that they make. -/
inductive Run : Position → List Call → Position → Prop where
  | refl (position : Position) : Run position [] position
  | move {first middle last : Position} {calls others : List Call}
      (head : Move hub context scope first calls middle)
      (tail : Run middle others last) :
      Run first (calls ++ others) last

end

variable {hub : Hub} {context : Context} {scope : Scope}

theorem Opens.unique
    {request : Request} {session leftLater rightLater : Session} {leftService rightService : Service}
    {leftInner rightInner : Context}
    (left : Opens hub context request session leftService leftInner leftLater)
    (right : Opens hub context request session rightService rightInner rightLater) :
    leftService = rightService ∧ leftInner = rightInner ∧ leftLater = rightLater := by
  have sameService : leftService = rightService :=
    Option.some.inj (left.found.symm.trans right.found)
  subst sameService
  have sameInner := Option.some.inj (left.enclosed.symm.trans right.enclosed)
  exact ⟨rfl, Prod.mk.inj sameInner⟩

theorem Opens.not_missing
    {request : Request} {session later : Session} {service : Service} {inner : Context}
    (opens : Opens hub context request session service inner later) :
    hub.resolve request.route.api request.route.service ≠ none := by
  rw [opens.found]
  exact Option.some_ne_none service

/-- A position has at most one move. -/
theorem Move.deterministic
    {position left right : Position} {leftCalls rightCalls : List Call}
    (leftMove : Move hub context scope position leftCalls left)
    (rightMove : Move hub context scope position rightCalls right) :
    leftCalls = rightCalls ∧ left = right := by
  cases leftMove with
  | serviceMissing missing =>
      cases rightMove with
      | serviceMissing => exact ⟨rfl, rfl⟩
      | handlerMissing opens => exact absurd missing opens.not_missing
      | route opens => exact absurd missing opens.not_missing
  | handlerMissing opens missing =>
      cases rightMove with
      | serviceMissing unknown => exact absurd unknown opens.not_missing
      | handlerMissing others =>
          rcases opens.unique others with ⟨rfl, rfl, rfl⟩
          exact ⟨rfl, rfl⟩
      | route others found =>
          rcases opens.unique others with ⟨rfl, rfl, rfl⟩
          cases missing.symm.trans found
  | route opens found =>
      cases rightMove with
      | serviceMissing unknown => exact absurd unknown opens.not_missing
      | handlerMissing others missing =>
          rcases opens.unique others with ⟨rfl, rfl, rfl⟩
          cases missing.symm.trans found
      | route others foundToo =>
          rcases opens.unique others with ⟨rfl, rfl, rfl⟩
          cases found.symm.trans foundToo
          exact ⟨rfl, rfl⟩
  -- The step ahead is one, and a task ends in one way.
  | stepDone ahead ended =>
      cases rightMove with
      | stepDone aheadToo endedToo =>
          cases ahead.symm.trans aheadToo
          cases ended.symm.trans endedToo
          exact ⟨rfl, rfl⟩
      | stepFailed aheadToo endedToo =>
          cases ahead.symm.trans aheadToo
          cases ended.symm.trans endedToo
      | stepsDone none_ahead => cases ahead.symm.trans none_ahead
  | stepFailed ahead ended =>
      cases rightMove with
      | stepDone aheadToo endedToo =>
          cases ahead.symm.trans aheadToo
          cases ended.symm.trans endedToo
      | stepFailed aheadToo endedToo =>
          cases ahead.symm.trans aheadToo
          cases ended.symm.trans endedToo
          exact ⟨rfl, rfl⟩
      | stepsDone none_ahead => cases ahead.symm.trans none_ahead
  | stepsDone none_ahead =>
      cases rightMove with
      | stepDone ahead => cases ahead.symm.trans none_ahead
      | stepFailed ahead => cases ahead.symm.trans none_ahead
      | stepsDone => exact ⟨rfl, rfl⟩
  -- The same of the target: there is one or none, and it ends in one of three ways.
  | targetMissing missing =>
      cases rightMove with
      | targetMissing => exact ⟨rfl, rfl⟩
      | targetAnswered found => cases missing.symm.trans found
      | targetSilent found => cases missing.symm.trans found
      | targetFailed found => cases missing.symm.trans found
  | targetAnswered found ended =>
      cases rightMove with
      | targetMissing missing => cases missing.symm.trans found
      | targetAnswered foundToo endedToo =>
          cases found.symm.trans foundToo
          cases ended.symm.trans endedToo
          exact ⟨rfl, rfl⟩
      | targetSilent foundToo endedToo =>
          cases found.symm.trans foundToo
          cases ended.symm.trans endedToo
      | targetFailed foundToo endedToo =>
          cases found.symm.trans foundToo
          cases ended.symm.trans endedToo
  | targetSilent found ended =>
      cases rightMove with
      | targetMissing missing => cases missing.symm.trans found
      | targetAnswered foundToo endedToo =>
          cases found.symm.trans foundToo
          cases ended.symm.trans endedToo
      | targetSilent foundToo endedToo =>
          cases found.symm.trans foundToo
          cases ended.symm.trans endedToo
          exact ⟨rfl, rfl⟩
      | targetFailed foundToo endedToo =>
          cases found.symm.trans foundToo
          cases ended.symm.trans endedToo
  | targetFailed found ended =>
      cases rightMove with
      | targetMissing missing => cases missing.symm.trans found
      | targetAnswered foundToo endedToo =>
          cases found.symm.trans foundToo
          cases ended.symm.trans endedToo
      | targetSilent foundToo endedToo =>
          cases found.symm.trans foundToo
          cases ended.symm.trans endedToo
      | targetFailed foundToo endedToo =>
          cases found.symm.trans foundToo
          cases ended.symm.trans endedToo
          exact ⟨rfl, rfl⟩
  | answered attached =>
      cases rightMove with
      | answered attachedToo =>
          cases attached.symm.trans attachedToo
          exact ⟨rfl, rfl⟩
      | detached missing => cases attached.symm.trans missing
  | detached missing =>
      cases rightMove with
      | answered attached => cases attached.symm.trans missing
      | detached => exact ⟨rfl, rfl⟩

/-- A request that has its answer goes no further. -/
theorem Move.not_rendered
    {answer : Except FailedRequest Response} {request : Request} {session : Session}
    {calls : List Call} {last : Position} :
    ¬ Move hub context scope ⟨.rendered answer, request, session⟩ calls last := by
  intro move
  cases move

namespace Run

theorem single
    {first last : Position} {calls : List Call}
    (head : Move hub context scope first calls last) :
    Run hub context scope first calls last := by
  simpa using Run.move head (.refl last)

theorem trans
    {first middle last : Position} {calls others : List Call}
    (left : Run hub context scope first calls middle)
    (right : Run hub context scope middle others last) :
    Run hub context scope first (calls ++ others) last := by
  induction left with
  | refl => exact right
  | move head tail ih =>
      rw [List.append_assoc]
      exact .move head (ih right)

/-- Nothing follows an answer. -/
theorem of_rendered
    {answer : Except FailedRequest Response} {request : Request} {session : Session}
    {calls : List Call} {last : Position}
    (run : Run hub context scope ⟨.rendered answer, request, session⟩ calls last) :
    calls = [] ∧ last = ⟨.rendered answer, request, session⟩ := by
  cases run with
  | refl => exact ⟨rfl, rfl⟩
  | move head => exact absurd head Move.not_rendered

/-- A run is empty, or it has a last move. -/
theorem eq_or_last
    {first last : Position} {calls : List Call}
    (run : Run hub context scope first calls last) :
    (calls = [] ∧ first = last) ∨
      ∃ middle before others, calls = before ++ others ∧
        Run hub context scope first before middle ∧ Move hub context scope middle others last := by
  induction run with
  | refl => exact Or.inl ⟨rfl, rfl⟩
  | @move first _ _ calls _ head _ ih =>
      rcases ih with ⟨rfl, rfl⟩ | ⟨middle, before, others, rfl, run, move⟩
      · exact Or.inr ⟨first, [], calls, by simp, .refl first, head⟩
      · exact Or.inr
          ⟨middle, calls ++ before, others, (List.append_assoc ..).symm, .move head run, move⟩

/-- A property of the calls so far and the position that every move keeps holds at the end of a run. -/
theorem preserves
    (holds : List Call → Position → Prop)
    (kept : ∀ {before calls : List Call} {position next : Position},
      holds before position → Move hub context scope position calls next →
        holds (before ++ calls) next)
    {before calls : List Call} {first last : Position}
    (start : holds before first)
    (run : Run hub context scope first calls last) :
    holds (before ++ calls) last := by
  induction run generalizing before with
  | refl => simpa using start
  | move head tail ih =>
      rw [← List.append_assoc]
      exact ih (kept start head)

/-- A run to an answer goes on from every position that is reached on the way. -/
theorem to_rendered_from
    {first middle : Position} {answer : Except FailedRequest Response} {request : Request}
    {session : Session} {calls others : List Call}
    (whole : Run hub context scope first calls ⟨.rendered answer, request, session⟩)
    (part : Run hub context scope first others middle) :
    ∃ rest, calls = others ++ rest ∧
      Run hub context scope middle rest ⟨.rendered answer, request, session⟩ := by
  induction part generalizing calls with
  | refl => exact ⟨calls, rfl, whole⟩
  | move head tail ih =>
      cases whole with
      | refl => exact absurd head Move.not_rendered
      | move wholeHead wholeTail =>
          rcases wholeHead.deterministic head with ⟨rfl, rfl⟩
          rcases ih wholeTail with ⟨rest, rfl, run⟩
          exact ⟨rest, (List.append_assoc ..).symm, run⟩

end Run

end RequestHub.Dispatch
