import RequestHub.Proofs.Dispatch.Handling

/-!
# Where an answer comes from

Work that is done was done part by part.  So an answer of a hub leads back through the work that made it:
to the service of the route, to its handler for the method, and through the handler to the response of the
target, between the steps on the way in and the steps on the way out.  `Handler.Passes` is that last part
of the way; before it the hub makes a span and perhaps a token, and nothing else has happened.
-/

namespace RequestHub

/-! ## The parts of work that is done -/

namespace Work

variable {σ α β : Type} {scope : Scope} {subject changed : σ} {session later : Session}

theorem bind_eq_done
    {work : Work σ α} {next : α → Work σ β} {value : β}
    (ended : (work >>= next) scope subject session = (.done value, changed, later)) :
    ∃ part middle between, work scope subject session = (.done part, middle, between) ∧
      next part scope middle between = (.done value, changed, later) := by
  change Work.bind work next scope subject session = _ at ended
  rw [Work.bind] at ended
  rcases first : work scope subject session with ⟨_ | _ | _ | _, middle, between⟩ <;>
    rw [first] at ended
  · exact ⟨_, middle, between, rfl, ended⟩
  all_goals cases ended

theorem attempt_eq_done
    {work : Work σ α} {value : α}
    (ended : attempt work scope subject session = (.done (.ok value), changed, later)) :
    work scope subject session = (.done value, changed, later) := by
  rw [attempt] at ended
  rcases first : work scope subject session with ⟨_ | _ | _ | _, middle, between⟩ <;>
    rw [first] at ended <;> cases ended
  rfl

theorem within_eq_done
    {work : Work σ α} {context : Context} {value : α}
    (ended : within context work scope subject session = (.done value, changed, later)) :
    work { scope with bounds := context :: scope.bounds } subject session =
      (.done value, changed, later) := by
  rw [within] at ended
  split at ended
  · cases ended
  · rcases first : work { scope with bounds := context :: scope.bounds } subject session with
      ⟨_ | _ | _ | _, middle, between⟩ <;> rw [first] at ended
    · exact ended
    · cases ended
    · dsimp only at ended
      split at ended <;> cases ended
    · cases ended

/-- Whenever work is done, what it has made of its subject and its session is related to both. -/
def Keeps (kept : σ × Session → σ × Session → Prop) (work : Work σ α) : Prop :=
  ∀ scope subject session value changed later,
    work scope subject session = (.done value, changed, later) →
      kept (subject, session) (changed, later)

theorem Keeps.bind
    {kept : σ × Session → σ × Session → Prop}
    (trans : ∀ first middle last, kept first middle → kept middle last → kept first last)
    {work : Work σ α} {next : α → Work σ β} (first : work.Keeps kept)
    (second : ∀ value, (next value).Keeps kept) : (work >>= next).Keeps kept := by
  intro scope subject session value changed later ended
  rcases bind_eq_done ended with ⟨part, middle, between, begun, finished⟩
  exact trans _ _ _ (first _ _ _ _ _ _ begun) (second part _ _ _ _ _ _ finished)

end Work

/-! ## The steps and the target of a handler -/

/-- Steps that each keep a relation keep it together. -/
theorem Handler.runSteps_keeps
    {kept : Request × Session → Request × Session → Prop}
    (refl : ∀ here, kept here here)
    (trans : ∀ first middle last, kept first middle → kept middle last → kept first last)
    {workflow : Option Workflow} {context : Context}
    (each : ∀ step ∈ (workflow.map Workflow.steps).getD [], (step.task.run context).Keeps kept) :
    (Handler.runSteps workflow context).Keeps kept := by
  rw [Dispatch.runSteps_eq]
  generalize (workflow.map Workflow.steps).getD [] = steps at each
  induction steps with
  | nil =>
      intro scope subject session value changed later ended
      cases ended
      exact refl _
  | cons step steps ih =>
      rw [Workflow.runSteps]
      exact Work.Keeps.bind trans (each step List.mem_cons_self) fun _ =>
        ih fun other member => each other (List.mem_cons_of_mem _ member)

/-- The way through a handler: its steps on the way in, its target, and its steps on the way out. -/
structure Handler.Passes
    (handler : Handler) (target : Target) (context : Context) (scope : Scope)
    (begun asked answered : Request × Session) (given : Response) (done : Request × Session) : Prop where
  entered : handler.enter context scope begun.1 begun.2 = (.done (), asked)
  targeted : target.run context scope asked.1 asked.2 = (.done (some given), answered)
  left : handler.leave context scope (answered.1.attach given) answered.2 = (.done (), done)

/-- A handler that is done has been passed. -/
theorem Handler.run_eq_done
    {handler : Handler} {service : String} {context : Context} {scope : Scope}
    {request : Request} {session : Session} {done : Request × Session}
    (ended : handler.run service context scope request session = (.done (), done)) :
    ∃ target asked answered given, handler.target = some target ∧
      handler.Passes target context scope (request, session) asked answered given done := by
  rcases Work.bind_eq_done ended with ⟨_, asked, asking, entered, onward⟩
  rcases Work.bind_eq_done onward with ⟨_, middle, between, targeted, left⟩
  rw [Handler.answer] at targeted
  cases present : handler.target with
  | none =>
      rw [present] at targeted
      cases targeted
  | some target =>
      rw [present] at targeted
      rcases Work.bind_eq_done targeted with ⟨part, answered, answering, ran, attached⟩
      cases part with
      | none => cases attached
      | some given =>
          cases attached
          exact ⟨target, (asked, asking), (answered, between), given, rfl, entered, ran, left⟩

/-! ## What comes before -/

/-- Nothing has happened in a session but that tokens, identifiers and spans have been made. -/
def Session.OnlyMakes (session later : Session) : Prop :=
  ∃ made, later = { session with made }

theorem Session.OnlyMakes.trans
    {first middle last : Session} (before : first.OnlyMakes middle) (after : middle.OnlyMakes last) :
    first.OnlyMakes last := by
  obtain ⟨_, rfl⟩ := before
  obtain ⟨made, rfl⟩ := after
  exact ⟨made, rfl⟩

theorem Context.onlyMakes_of_child?
    {context inner : Context} {timeout : Nat} {session later : Session}
    (derived : context.child? timeout session = some (inner, later)) : session.OnlyMakes later := by
  obtain ⟨-, -, rfl⟩ := (Context.child?_eq_some_iff ..).mp derived
  exact ⟨_, rfl⟩

namespace Hub

variable {hub : Hub} {context : Context} {response : Response}

/-- A service that has done its work has a handler for the method, and the handler has done its own. -/
theorem dispatch_eq_done
    {service : Service} {scope : Scope} {request changed : Request} {session later : Session}
    (ended : service.dispatch context scope request session = (.done (), changed, later)) :
    ∃ handler inner bounded opened, session.OnlyMakes opened ∧
      service.handler request.method = some handler ∧
      handler.run service.name inner bounded request opened = (.done (), changed, later) := by
  have handled {inner : Context} {bounded : Scope} {opened : Session}
      (ended : service.handle inner bounded request opened = (.done (), changed, later)) :
      ∃ handler, service.handler request.method = some handler ∧
        handler.run service.name inner bounded request opened = (.done (), changed, later) := by
    cases found : service.handler request.method with
    | none =>
        rw [Dispatch.handle_of_no_handler found] at ended
        cases ended
    | some handler =>
        rw [Dispatch.handle_of_handler found] at ended
        exact ⟨handler, rfl, ended⟩
  rw [Service.dispatch] at ended
  cases limit : service.timeout with
  | some timeout =>
      rw [limit] at ended
      rcases Work.bind_eq_done ended with ⟨inner, middle, opened, made, inside⟩
      rw [Work.child] at made
      cases derived : context.child? timeout session with
      | none =>
          rw [derived] at made
          cases made
      | some child =>
          rw [derived] at made
          cases made
          rcases handled (Work.within_eq_done inside) with ⟨handler, found, ran⟩
          exact ⟨handler, child.1, _, child.2, Context.onlyMakes_of_child? derived, found, ran⟩
  | none =>
      rw [limit] at ended
      rcases handled (Work.within_eq_done ended) with ⟨handler, found, ran⟩
      exact ⟨handler, _, _, session, ⟨_, rfl⟩, found, ran⟩

/-- An answer is the response that is attached when the handler of the route is done. -/
theorem handle_eq_ok
    {scope : Scope} {request last : Request} {session later : Session}
    (ended : hub.handle context scope request session = (.done (.ok response), last, later)) :
    ∃ service handler inner bounded opened changed closed, session.OnlyMakes opened ∧
      hub.resolve request.route.api request.route.service = some service ∧
        service.handler request.method = some handler ∧
        handler.run service.name inner bounded request opened = (.done (), changed, closed) ∧
        changed.response = some response := by
  have asked (scope : Scope) (session : Session) :
      Work.request scope request session = (.done request, request, session) := rfl
  change hub.route context (Dispatch.spanned scope request session).1 request _ = _ at ended
  rw [Hub.route, Work.bind_of_done (asked _ _)] at ended
  cases found : hub.resolve request.route.api request.route.service with
  | none =>
      rw [found] at ended
      cases ended
  | some service =>
      rw [found] at ended
      rcases Work.bind_eq_done ended with ⟨result, changed, closed, attempted, concluded⟩
      have taken : Hub.takeResponse (Dispatch.spanned scope request session).1 changed closed =
          (.done changed.response, changed.detach, closed) := rfl
      rw [Hub.conclude, Work.bind_of_done taken] at concluded
      cases result with
      | error failure => cases concluded
      | ok =>
          cases attached : changed.response with
          | none =>
              rw [attached] at concluded
              cases concluded
          | some attached' =>
              rw [attached] at concluded
              cases concluded
              rcases dispatch_eq_done (Work.attempt_eq_done attempted) with
                ⟨handler, inner, bounded, opened, made, handled, ran⟩
              have spanned : session.OnlyMakes (Dispatch.spanned scope request session).2 := ⟨_, rfl⟩
              exact ⟨service, handler, inner, bounded, opened, changed, _, spanned.trans made, rfl,
                handled, ran, attached⟩

end Hub

end RequestHub
