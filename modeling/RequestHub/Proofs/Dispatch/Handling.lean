import RequestHub.Proofs.Dispatch.Refinement
import RequestHub.Trial.Plugin

/-!
# What a hub makes of a request

The answer of a hub, and the plugins that it calls on the way to it, for every hub, every request and
all plugins.  `Handled` says what is true of a request that has been handled while its contexts lasted,
and `handle_refines_stages` that every request is handled in this sense.
-/

namespace RequestHub.Dispatch

variable {hub : Hub} {context : Context} {scope : Scope}

/-- A hub routes a request in a span of its own: what is around it then, and the session. -/
def spanned (scope : Scope) (request : Request) (session : Session) : Scope × Session :=
  let (span, later) :=
    session.freshSpan ((Span.extract? request.headers).orElse fun _ => scope.span)
  ({ scope with span := some span }, later)

/--
What is true of a passage from the stage at which it is routed to its answer.  Every run that is
mentioned begins at that stage.
-/
structure Passage.Kept
    (hub : Hub) (context : Context) (scope : Scope) (passage : Passage) (request : Request)
    (session later : Session) (calls : List Call) (answer : Except FailedRequest Response) :
    Prop where
  /-- The calls are the beginning of the course: inbound steps, target and outbound steps, in order. -/
  in_order : calls <+: passage.course
  target_once : calls.count .target ≤ 1
  target_called_iff :
    .target ∈ calls ↔
      passage.handler.target.isSome ∧
        Reaches hub context scope ⟨.routed passage, request, session⟩ (.inboundApplied passage)
  outward_called : ∀ {index}, .step .outward index ∈ calls →
    TargetAnswers hub context scope ⟨.routed passage, request, session⟩ passage
  /-- Without a target the passage ends behind the steps on the way in, all of which have run. -/
  target_missing : ∀ {walked changed ended},
    Run hub context scope ⟨.routed passage, request, session⟩ walked
      ⟨.inboundApplied passage, changed, ended⟩ →
    passage.handler.target = none →
    answer = .error
        ⟨.internalServerError, .targetNotConfigured passage.service.name, some passage.id,
          changed.response⟩ ∧
      calls = stepCalls .inward (passage.steps .inward).length
  target_silent : ∀ {walked asked asking target changed ended},
    Run hub context scope ⟨.routed passage, request, session⟩ walked
      ⟨.inboundApplied passage, asked, asking⟩ →
    passage.handler.target = some target →
    target.run passage.context (passage.scope scope) asked asking = (.done none, changed, ended) →
    answer = .error
      ⟨.internalServerError, .emptyResponse passage.service.name, some passage.id,
        changed.response⟩
  /-- The answer is the response that is still attached behind the last step. -/
  answered_iff : ∀ {response},
    answer = .ok response ↔
      ∃ walked changed ended,
        Run hub context scope ⟨.routed passage, request, session⟩ walked
          ⟨.outboundApplied passage, changed, ended⟩ ∧
        changed.response = some response
  detached : ∀ {walked changed ended},
    Run hub context scope ⟨.routed passage, request, session⟩ walked
      ⟨.outboundApplied passage, changed, ended⟩ →
    changed.response = none →
    answer = .error
      ⟨.internalServerError, .emptyResponse passage.service.name, some passage.id, none⟩
  /-- Without steps the answer is the response of the target. -/
  bare : ∀ {target response changed ended},
    passage.steps .inward = [] → passage.steps .outward = [] →
    passage.handler.target = some target →
    target.run passage.context (passage.scope scope) request session =
      (.done (some response), changed, ended) →
    answer = .ok response
  /-- Plugins that note their calls have noted exactly the calls of the run. -/
  noted : ∀ {mark : Call → Nat}, passage.Signed scope mark →
    later.called = session.called ++ calls.map mark
  /-- If no plugin attaches a response, a failure carries one only if the target has answered. -/
  failed_response : request.response = none → passage.Reserved scope →
    ∀ {failed}, answer = .error failed → failed.response ≠ none →
      TargetAnswers hub context scope ⟨.routed passage, request, session⟩ passage

/-- What is true of a request that a hub has handled; `inside` and `opening` are as it is routed. -/
structure Handled
    (hub : Hub) (context : Context) (scope inside : Scope) (request last : Request)
    (session opening later : Session) (calls : List Call)
    (answer : Except FailedRequest Response) : Prop where
  handled : hub.handle context scope request session = (.done answer, last, later)
  run : Run hub context inside ⟨.received, request, opening⟩ calls ⟨.rendered answer, last, later⟩
  service_missing : hub.resolve request.route.api request.route.service = none →
    answer = .error
        ⟨.notFound, .serviceNotFound request.route.api request.route.service, some request.id,
          none⟩ ∧
      calls = [] ∧ later.called = session.called
  handler_missing : ∀ {service inner opened},
    Opens hub context request opening service inner opened →
    service.handler request.method = none →
    answer = .error
        ⟨.internalServerError, .methodNotConfigured request.method service.name, some request.id,
          request.response⟩ ∧
      calls = [] ∧ later.called = session.called
  kept : ∀ {service handler inner opened},
    Opens hub context request opening service inner opened →
    service.handler request.method = some handler →
    Passage.Kept hub context inside ⟨service, handler, inner, request.id⟩ request opened later calls
      answer

/-- The target occurs once in a course. -/
@[simp]
theorem Passage.count_target_course (passage : Passage) :
    passage.course.count .target = 1 := by
  have none_in (way : Way) (count : Nat) : (stepCalls way count).count .target = 0 := by
    rw [List.count_eq_zero]
    simp
  simp [Passage.course, none_in]

/-- Every run of a passage to an answer keeps what is said of the passage. -/
theorem Run.kept
    {passage : Passage} {request last : Request} {session later : Session} {calls : List Call}
    {answer : Except FailedRequest Response}
    (run : Run hub context scope ⟨.routed passage, request, session⟩ calls
      ⟨.rendered answer, last, later⟩) :
    passage.Kept hub context scope request session later calls answer where
  in_order := run.accounts
  target_once := passage.count_target_course ▸ (run.accounts.sublist.count_le _)
  target_called_iff := run.target_called_iff
  outward_called := run.answers_of_outward
  target_missing entered missing := by
    rcases run.rendered_by_move entered (.targetMissing missing) with ⟨rfl, rfl, -⟩
    exact ⟨rfl, by simp [entered.accounts.2, Passage.before]⟩
  target_silent entered found ended :=
    (run.rendered_by_move entered (.targetSilent found ended)).2.1
  answered_iff := run.answered_iff _
  detached reached missing := (run.rendered_by_move reached (.detached missing)).2.1
  bare noInward noOutward found ended := by
    have entered : Run hub context scope ⟨.routed passage, request, session⟩ []
        ⟨.inboundApplied passage, request, session⟩ :=
      .single (.stepsDone (by simp [noInward]))
    have answered := entered.trans (.single (.targetAnswered found ended))
    have left := answered.trans (.single (.stepsDone (by simp [noOutward])))
    exact (run.answered_iff _).mpr ⟨_, _, _, left, rfl⟩
  noted signed := run.called_eq signed
  failed_response unanswered reserved failed equal carries := by
    subst equal
    exact run.answers_of_response reserved unanswered carries

/-! ## Every request is handled -/

/-- What a hub answers while its contexts last is the answer of a run. -/
theorem route_refines_stages
    {request : Request} {session : Session}
    (lasting : Lasting hub context scope request session) :
    ∃ calls answer last later,
      hub.route context scope request session = (.done answer, last, later) ∧
      Run hub context scope ⟨.received, request, session⟩ calls
        ⟨.rendered answer, last, later⟩ := by
  cases found : hub.resolve request.route.api request.route.service with
  | none =>
      have asked : Work.request scope request session = (.done request, request, session) := rfl
      refine ⟨[], _, request, session, ?_, .single (.serviceMissing found)⟩
      rw [Hub.route, Work.bind_of_done asked, found]
      rfl
  | some service =>
      rcases lasting.opens found with ⟨inner, opened, opens⟩
      cases handled : service.handler request.method with
      | none =>
          refine ⟨[], _, request.detach, opened, ?_, .single (.handlerMissing opens handled)⟩
          exact route_eq opens (handle_of_no_handler handled)
      | some handler =>
          have routed : Run hub context scope ⟨.received, request, session⟩ []
              ⟨.routed ⟨service, handler, inner, request.id⟩, request, opened⟩ :=
            .single (.route opens handled)
          obtain ⟨calls, result, changed, later, run, ended⟩ :=
            follows_handler ⟨service, handler, inner, request.id⟩ request opened
              fun onward => lasting.settled (routed.trans onward)
          rcases conclude_follows run with ⟨answer, concluded, rendered⟩
          refine ⟨_, answer, changed.detach, later, ?_, routed.trans rendered⟩
          exact (route_eq opens ((handle_of_handler handled).trans ended)).trans concluded

theorem Opens.called_eq
    {request : Request} {session later : Session} {service : Service} {inner : Context}
    (opens : Opens hub context request session service inner later) :
    later.called = session.called := by
  rw [eq_of_enclosed opens.enclosed]

/--
A hub whose contexts last handles every request as the stages say: it answers, and the answer, the
calls of plugins and their order are those of the run of the stages from the arrival of the request.
-/
theorem handle_refines_stages
    (hub : Hub) (context : Context) (scope : Scope) (request : Request) (session : Session)
    (lasting : Lasting hub context (spanned scope request session).1 request
      (spanned scope request session).2) :
    ∃ calls answer last later,
      Handled hub context scope (spanned scope request session).1 request last session
        (spanned scope request session).2 later calls answer := by
  rcases route_refines_stages lasting with ⟨calls, answer, last, later, routed, run⟩
  refine ⟨calls, answer, last, later, routed, run, ?_, ?_, ?_⟩
  · intro missing
    rcases run.rendered_by_move (.refl _) (.serviceMissing missing) with ⟨rfl, rfl, rfl⟩
    exact ⟨rfl, rfl, rfl⟩
  · intro service inner opened opens missing
    rcases run.rendered_by_move (.refl _) (.handlerMissing opens missing) with ⟨rfl, rfl, rfl⟩
    exact ⟨rfl, rfl, opens.called_eq⟩
  · intro service handler inner opened opens found
    rcases run.to_rendered_from (.single (.route opens found)) with ⟨rest, rfl, onward⟩
    exact onward.kept

/-- A service that leaves a mark, sends back the body, and withdraws the response. -/
def withdrawing : Service :=
  (Service.make "shop" "cart").setHandler .post
    { serial := 0
      inbound := some (.ofSteps [⟨"mark", 0, "", none, Trial.marker "!"⟩])
      outbound := some
        (.ofSteps [⟨"withdraw", 0, "", none, ⟨"withdraw", fun _ => Work.modify Request.detach⟩⟩])
      target := some (Trial.echo 0)
      targetName := none
      targetType := none }

/-- The hub with the service `withdrawing` alone. -/
def store : Hub :=
  (Hub.make "store").install withdrawing

/-- A request for the service `withdrawing`. -/
def order : Request :=
  Request.make ⟨0⟩ .post ⟨none, "", "/shop/cart", none⟩ [] [] []

/-- The beginning of a session in which nothing is delivered. -/
def morning : Session :=
  .start 0 (fun _ => default) (fun _ => 0) default

theorem eq_withdrawing
    {api name : String} {service : Service} (found : store.resolve api name = some service) :
    service = withdrawing := by
  rw [store, Hub.resolve_install] at found
  split at found
  · exact (Option.some.inj found).symm
  · cases found

theorem withdrawing_instant
    {passage : Passage} {scope : Scope}
    (same : passage.service = withdrawing)
    (found : passage.service.handler order.method = some passage.handler) :
    passage.Instant scope := by
  rw [same] at found
  have handled : passage.handler = ((withdrawing.handler .post).getD default) := by
    rw [← show some passage.handler = withdrawing.handler .post from found.symm]
    rfl
  constructor
  · intro way step member request session
    cases way with
    | inward =>
        simp only [Passage.steps, handled, withdrawing, Service.setHandler] at member
        obtain rfl := List.mem_singleton.mp member
        exact ⟨.ok (), rfl⟩
    | outward =>
        simp only [Passage.steps, handled, withdrawing, Service.setHandler] at member
        obtain rfl := List.mem_singleton.mp member
        exact ⟨.ok (), rfl⟩
  · intro target present request session
    rw [handled] at present
    obtain rfl := Option.some.inj present
    exact ⟨.ok (some _), rfl⟩

/-- A response that is withdrawn behind the target is no answer. -/
theorem handle_refines_stages_withdrawing :
    Lasting store (.ofToken []) (spanned default order morning).1 order
        (spanned default order morning).2 ∧
      ∃ calls last later,
        Handled store (.ofToken []) default (spanned default order morning).1 order last morning
          (spanned default order morning).2 later calls
          (.error ⟨.internalServerError, .emptyResponse "cart", some ⟨0⟩, none⟩) := by
  have lasting : Lasting store (.ofToken []) (spanned default order morning).1 order
      (spanned default order morning).2 := by
    apply Lasting.of_instant
    · intro service found
      obtain rfl := eq_withdrawing found
      exact ⟨.forRequest (.ofToken []) order.id, _, found, rfl, rfl⟩
    · intro passage found handled
      exact withdrawing_instant (eq_withdrawing found) handled
  refine ⟨lasting, ?_⟩
  rcases handle_refines_stages _ _ _ _ _ lasting with ⟨calls, answer, last, later, handled⟩
  have computed : (store.handle (.ofToken []) default order morning).1 =
      .done (.error ⟨.internalServerError, .emptyResponse "cart", some ⟨0⟩, none⟩) := rfl
  rw [handled.handled] at computed
  cases computed
  exact ⟨calls, last, later, handled⟩

end RequestHub.Dispatch
