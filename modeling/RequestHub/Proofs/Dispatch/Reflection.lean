import RequestHub.Plugin.PassThrough
import RequestHub.Proofs.Deadline.Limit
import RequestHub.Proofs.Listener.Decision

/-!
# Requests that come back

A handler without steps whose target sends back what it is sent answers a request with everything that the
request carries.  `Transported` follows a request from its arrival to that answer: the method is looked at
before the body, a body that breaks off is refused before any plugin has a say, and of a body that is whole
only the whole counts.

Whether the answer is given at all is a question of time.  A service works in a context of its own if its
time is limited; a limit of no time at all has run out before the work begins, and a limit that ends at no
instant aborts it.
-/

namespace RequestHub

/-! ## The time that a service has -/

/-- A new token is cancelled exactly if the token that it comes from is. -/
theorem Session.Accounted.isCancelled_append
    {session : Session}
    (accounted : session.Accounted)
    (token : Token) :
    session.isCancelled (token ++ [session.made]) = session.isCancelled token := by
  cases isOpen : session.isCancelled token with
  | false => exact accounted.isCancelled_fresh isOpen
  | true =>
      -- What is cancelled above a token is above all that come from it.
      rw [isCancelled, List.any_eq_true] at isOpen ⊢
      rcases isOpen with ⟨cancelled, among, before⟩
      have through : cancelled <+: token ++ [session.made] :=
        (List.isPrefixOf_iff_prefix.mp before).trans (List.prefix_append ..)
      exact ⟨cancelled, among, List.isPrefixOf_iff_prefix.mpr through⟩

namespace Context

variable {context inner : Context} {timeout : Nat} {session opened : Session}

/-- A context with a limit has ended from the outset if it comes from one that has, or has no time. -/
theorem hasEnded_child_iff
    (accounted : session.Accounted)
    (derived : context.child? timeout session = some (inner, opened)) :
    inner.hasEnded opened = true ↔ context.hasEnded session = true ∨ timeout = 0 := by
  rcases (child?_eq_some_iff ..).mp derived with ⟨-, rfl, rfl⟩
  change (session.isCancelled (context.token ++ [session.made]) ||
    decide (earlier context.deadline (session.now + timeout) ≤ session.now)) = true ↔ _
  rw [accounted.isCancelled_append, hasEnded, isOverdue, Bool.or_eq_true, Bool.or_eq_true, or_assoc]
  -- The token is cancelled if the other one is; what is left to compare are the deadlines.
  refine or_congr_right (decide_eq_true_iff.trans ?_)
  cases context.deadline with
  | none =>
      have passed : session.now + timeout ≤ session.now ↔ timeout = 0 := by omega
      simpa only [earlier, Option.any_none, Bool.false_eq_true, false_or] using passed
  | some bound =>
      have passed : min bound (session.now + timeout) ≤ session.now ↔
          bound ≤ session.now ∨ timeout = 0 := by omega
      simpa only [earlier, Option.any_some, decide_eq_true_eq] using passed

/-- A context with a limit ends at the outset for the reason for which the one that it comes from would. -/
theorem ending_child
    (accounted : session.Accounted)
    (derived : context.child? timeout session = some (inner, opened)) :
    inner.ending opened = context.ending session := by
  rcases (child?_eq_some_iff ..).mp derived with ⟨-, rfl, rfl⟩
  have same := accounted.isCancelled_append context.token
  exact congrArg
    (fun cancelled : Bool => if cancelled then
      Failure.cancelled "execution context was cancelled" else .cancelled "deadline exceeded") same

end Context

namespace Service

/-- The end of the time that a service has is an instant. -/
def EndsAtInstant (service : Service) (session : Session) : Prop :=
  ∀ timeout, service.timeout = some timeout → session.now + timeout ≤ Context.greatestInstant

/-- A service that is called in a context has no time left. -/
def Late (service : Service) (context : Context) (session : Session) : Prop :=
  context.hasEnded session = true ∨ service.timeout = some 0

variable {service : Service} {session : Session}

/-- The context in which a service works has ended from the outset exactly if the service is late. -/
theorem enclosed_of_instant
    (context : Context)
    (accounted : session.Accounted)
    (instant : service.EndsAtInstant session) :
    ∃ inner opened, Dispatch.enclosed? service context session = some (inner, opened) ∧
      (inner.hasEnded opened = true ↔ service.Late context session) ∧
      inner.ending opened = context.ending session := by
  unfold Dispatch.enclosed? Late
  cases limit : service.timeout with
  | none => exact ⟨context, session, rfl, by simp, rfl⟩
  | some timeout =>
      have derived := (Context.child?_eq_some_iff context _ timeout session _).mpr
        ⟨instant timeout limit, rfl, rfl⟩
      refine ⟨_, _, derived, ?_, Context.ending_child accounted derived⟩
      rw [Option.some.injEq]
      exact Context.hasEnded_child_iff accounted derived

theorem enclosed_of_no_instant
    {context : Context}
    (beyond : ¬ service.EndsAtInstant session) :
    Dispatch.enclosed? service context session = none := by
  simp only [EndsAtInstant, not_forall] at beyond
  rcases beyond with ⟨timeout, limit, late⟩
  rw [Dispatch.enclosed?, limit]
  exact if_neg late

end Service

/-! ## Handlers that send back what they are sent -/

/-- A handler has no steps, and its target sends back what it is sent. -/
structure Handler.Reflects (handler : Handler) : Prop where
  noInward : Handler.stepsOf handler.inbound = []
  noOutward : Handler.stepsOf handler.outbound = []
  target : handler.target = some PassThrough.target

/-- Such a handler attaches everything that the request carries as its response. -/
theorem Handler.Reflects.run_eq
    {handler : Handler}
    (reflects : handler.Reflects)
    (service : String)
    (context : Context)
    (scope : Scope)
    (request : Request)
    (session : Session) :
    handler.run service context scope request session =
      (.done (), request.attach (PassThrough.reflect request), session) := by
  rw [run_eq_inTurn, parts, reflects.noInward, reflects.noOutward]
  have answers : handler.answer service context scope request session =
      (.done (), request.attach (PassThrough.reflect request), session) := by
    rw [answer, reflects.target]
    rfl
  exact Work.bind_of_done answers _

namespace Hub

variable {hub : Hub} {context inner : Context} {scope : Scope} {request : Request}
  {session opened : Session} {service : Service}

/-- A request that has reached such a handler in time comes back. -/
theorem route_of_reflects
    {handler : Handler}
    (opens : Dispatch.Opens hub context request session service inner opened)
    (handled : service.handler request.method = some handler)
    (reflects : handler.Reflects) :
    (hub.route context scope request session).1 =
      .done (.ok (PassThrough.reflect request)) := by
  have ran : service.handle inner { scope with bounds := inner :: scope.bounds } request opened =
      (Outcome.ofResult (.ok ()), request.attach (PassThrough.reflect request), opened) :=
    (Dispatch.handle_of_handler handled).trans (reflects.run_eq service.name inner _ request opened)
  rw [Dispatch.route_eq opens ran]
  rfl

/-- What ends before it begins is answered with the end of its context. -/
theorem route_of_ended
    (found : hub.resolve request.route.api request.route.service = some service)
    (enclosed : Dispatch.enclosed? service (context.forRequest request.id) session =
      some (inner, opened))
    (ended : inner.hasEnded opened = true) :
    (hub.route context scope request session).1 =
      .done (.error ⟨dispatchStatus (inner.ending opened), inner.ending opened, some request.id,
        request.response⟩) := by
  have refused : service.dispatch (context.forRequest request.id) scope request session =
      (.failed (inner.ending opened), request, opened) := by
    rw [Dispatch.dispatch_of_enclosed enclosed, Work.within, if_pos ended]
  rw [Dispatch.route_of_found found, Work.bind_of_done (Work.attempt_of_failed refused)]
  rfl

theorem route_of_unenclosed
    (found : hub.resolve request.route.api request.route.service = some service)
    (unenclosed : Dispatch.enclosed? service (context.forRequest request.id) session = none) :
    (hub.route context scope request session).1 = .aborted := by
  rw [Dispatch.route_of_found found]
  exact congrArg Prod.fst
    (Work.bind_of_aborted (Work.attempt_of_aborted (Dispatch.dispatch_of_unenclosed unenclosed)) _)

/-! ## From the arrival to the answer -/

/-- A request that can be read is for a service whose handler for it sends back what it is sent. -/
structure ComesBack (hub : Hub) (raw : RawRequest) (service : Service) : Prop where
  whole : raw.broken = none
  found : hub.resolve (Route.ofPath raw.uri.path).api (Route.ofPath raw.uri.path).service =
    some service
  handled : ∃ method handler, Method.ofString raw.method = .ok method ∧
    service.handler method = some handler ∧ handler.Reflects

/-- What a hub makes of a request that arrives, whatever services and plugins the hub has. -/
structure Transported (hub : Hub) (context : Context) (raw : RawRequest) (session : Session) :
    Prop where
  /-- A method that no hub knows is refused whatever the body is, and wherever it breaks off. -/
  unsupported : ¬ Method.Named raw.method →
    hub.handleRaw context raw session =
      (.done (.error ⟨.methodNotAllowed, .unsupportedMethod raw.method, none, none⟩),
        session.freshId.2)
  /-- A body that breaks off is refused whatever came before, and no plugin has done anything. -/
  broken : Method.Named raw.method → ∀ {message}, raw.broken = some message →
    hub.handleRaw context raw session =
      (.done (.error ⟨.badRequest, .bodyRead message, none, none⟩), session.freshId.2)
  /-- What comes back is the whole body, and all values under all names in their order. -/
  comesBack : ∀ {service}, hub.ComesBack raw service → service.EndsAtInstant session →
    ¬ service.Late context session →
    (hub.handleRaw context raw session).1 =
      .done (.ok
        { status := .ok
          headers := raw.headers
          trailers := raw.trailers.getD []
          body := raw.frames.flatten })
  late : ∀ {service}, hub.ComesBack raw service → service.EndsAtInstant session →
    service.Late context session →
    (hub.handleRaw context raw session).1 =
      .done (.error ⟨.gatewayTimeout, context.ending session, some session.freshId.1, none⟩)
  beyond : ∀ {service}, hub.ComesBack raw service → ¬ service.EndsAtInstant session →
    (hub.handleRaw context raw session).1 = .aborted
  /-- Of the pieces of a body only the whole that they make counts. -/
  pieces : ∀ {frames : List Bytes}, frames.flatten = raw.frames.flatten →
    hub.handleRaw context { raw with frames } session = hub.handleRaw context raw session

variable {raw : RawRequest} {method : Method}

/-- A request that is read is routed in a span of its own, once it has an identifier. -/
theorem handleRaw_eq_route
    (known : Method.ofString raw.method = .ok method)
    (whole : raw.broken = none) :
    ∃ scope, (hub.handleRaw context raw session).1 =
      (hub.route context scope (Listener.arrived session.freshId.1 method raw)
        { session with made := session.made + 2 }).1 := by
  refine ⟨(Dispatch.spanned ⟨[], none⟩ (Listener.arrived session.freshId.1 method raw)
    session.freshId.2).1, ?_⟩
  simp only [handleRaw, Listener.ofRaw_eq known whole]
  rfl

@[simp]
theorem dispatchStatus_ending (context : Context) (session : Session) :
    dispatchStatus (context.ending session) = .gatewayTimeout := by
  unfold Context.ending
  split <;> rfl

/--
A hub transports every request faithfully: it refuses what it cannot read before anything is dispatched,
and a request for a handler that sends back what it is sent comes back with all that it carries, unless
the service has no time left.
-/
theorem handleRaw_transports
    (hub : Hub)
    (context : Context)
    (raw : RawRequest)
    (session : Session)
    (accounted : session.Accounted) :
    Transported hub context raw session := by
  -- When the request is routed it has taken an identifier, and the hub has made a span for it.
  let begun : Session := { session with made := session.made + 2 }
  have routing : begun.Accounted := accounted.of_le rfl (Nat.le_add_right _ _)
  constructor
  case unsupported =>
    intro unnamed
    simp only [handleRaw, Request.ofRaw, Method.ofString_of_not_named unnamed]
    rfl
  case broken =>
    intro named message breaks
    rcases Method.ofString_of_named named with ⟨method, known, -⟩
    simp only [handleRaw, Request.ofRaw, known, breaks]
    rfl
  case comesBack =>
    rintro service ⟨whole, found, method, handler, known, handled, reflects⟩ instant inTime
    rcases Service.enclosed_of_instant (context.forRequest session.freshId.1) routing instant with
      ⟨inner, opened, enclosed, ended_iff, -⟩
    have lasts : inner.hasEnded opened = false := eq_false_of_ne_true (mt ended_iff.mp inTime)
    rcases handleRaw_eq_route known whole with ⟨scope, answered⟩
    exact answered.trans (route_of_reflects ⟨found, enclosed, lasts⟩ handled reflects)
  case late =>
    rintro service ⟨whole, found, method, handler, known, handled, reflects⟩ instant late
    rcases Service.enclosed_of_instant (context.forRequest session.freshId.1) routing instant with
      ⟨inner, opened, enclosed, ended_iff, ending⟩
    rcases handleRaw_eq_route known whole with ⟨scope, answered⟩
    have ended : inner.hasEnded opened = true := ended_iff.mpr late
    refine (answered.trans (route_of_ended found enclosed ended)).trans ?_
    rw [ending, dispatchStatus_ending]
    rfl
  case beyond =>
    rintro service ⟨whole, found, method, handler, known, handled, reflects⟩ beyond
    rcases handleRaw_eq_route known whole with ⟨scope, answered⟩
    exact answered.trans (route_of_unenclosed found (Service.enclosed_of_no_instant beyond))
  case pieces =>
    intro frames same
    simp only [handleRaw, Listener.ofRaw_pieces same]

/-- A service that sends back what it is sent, within a limit of time. -/
def mirror (limit : Option Nat) : Service :=
  { (Service.make "shop" "cart").setHandler .post
      { serial := 0
        inbound := none
        outbound := some .empty
        target := some PassThrough.target
        targetName := none
        targetType := none } with
    timeout := limit }

/-- A hub with the service `mirror` alone. -/
def hall (limit : Option Nat) : Hub :=
  (Hub.make "store").install (mirror limit)

/-- A request with two values under one name and a trailer, whose body arrives in three pieces. -/
def card : RawRequest where
  method := "post"
  uri := ⟨none, "", "/shop/cart", none⟩
  version := .oneOne
  remote := none
  headers := [("x-stamp", [Bytes.ofString "red", Bytes.ofString "blue"])]
  frames := [Bytes.ofString "ab", [], Bytes.ofString "c"]
  broken := none
  trailers := some [("x-sum", [Bytes.ofString "294"])]

theorem card_comesBack (limit : Option Nat) : (hall limit).ComesBack card (mirror limit) where
  whole := rfl
  found := (resolve_install ..).trans (if_pos rfl)
  handled := ⟨.post, _, rfl, rfl, ⟨rfl, rfl, rfl⟩⟩

theorem handleRaw_transports_card :
    Dispatch.morning.Accounted ∧
      Transported (hall none) (.ofToken []) card Dispatch.morning ∧
      ((hall none).handleRaw (.ofToken []) card Dispatch.morning).1 =
        .done (.ok
          { status := .ok
            headers := [("x-stamp", [Bytes.ofString "red", Bytes.ofString "blue"])]
            trailers := [("x-sum", [Bytes.ofString "294"])]
            body := Bytes.ofString "abc" }) := by
  have accounted : Dispatch.morning.Accounted := by
    intro token member
    exact absurd member List.not_mem_nil
  have transported := handleRaw_transports (hall none) (.ofToken []) card Dispatch.morning accounted
  refine ⟨accounted, transported, transported.comesBack (card_comesBack none) ?_ ?_⟩
  · intro timeout limited
    cases limited
  · rintro (ended | limited)
    · cases ended
    · cases limited

/-- A service that has no time at all is a service like any other, and sends nothing back. -/
theorem hall_answers_late :
    (hall (some 0)).ComesBack card (mirror (some 0)) ∧
      (Context.ofToken []).hasEnded Dispatch.morning = false ∧
      ∃ id, ((hall (some 0)).handleRaw (.ofToken []) card Dispatch.morning).1 =
        .done (.error ⟨.gatewayTimeout, .cancelled "deadline exceeded", some id, none⟩) :=
  ⟨card_comesBack _, rfl, _, rfl⟩

end Hub

end RequestHub
