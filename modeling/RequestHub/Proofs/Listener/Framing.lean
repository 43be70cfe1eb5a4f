import RequestHub.Proofs.Dispatch.Relay
import RequestHub.Proofs.Listener.Decision
import RequestHub.Trial.Plugin

/-!
# Declared lengths

A target that relays answers with header fields that it has not made, and nothing behind it makes them
fit the body.  So when the steps around such a target leave header fields alone, the length that an
answer declares is the one that the request declared, or the one that the reply declared, whatever the
steps have made of the body.  It is right if it was right there and the steps leave bodies alone as well.
-/

namespace RequestHub

/-- Every length that header fields declare is a given one. -/
def Headers.Declare (headers : Headers) (length : Nat) : Prop :=
  ∀ value ∈ headers.values "content-length",
    ∃ text, Bytes.visibleText? value = some text ∧
      Transport.length? (Text.trim text) = some length

/-- Every length that a response declares is that of its body. -/
def Response.Framed (response : Response) : Prop :=
  response.headers.Declare response.body.length

/-! ## What steps leave alone -/

/--
Where one looks, a request is as it was before, and so is the response that is attached, if one is.
-/
structure Request.Alike {β : Type} (look : Headers → Bytes → β) (before after : Request) : Prop where
  request : look after.headers after.body = look before.headers before.body
  response : ∀ response, after.response = some response → ∃ other,
    before.response = some other ∧ look response.headers response.body = look other.headers other.body

section

variable {β : Type} {look : Headers → Bytes → β}

theorem Request.Alike.refl (request : Request) : request.Alike look request where
  request := rfl
  response response attached := ⟨response, attached, rfl⟩

theorem Request.Alike.trans
    {first middle last : Request} (before : first.Alike look middle) (after : middle.Alike look last) :
    first.Alike look last where
  request := after.request.trans before.request
  response := by
    intro response attached
    rcases after.response response attached with ⟨other, between, same⟩
    rcases before.response other between with ⟨earlier, attached_before, likewise⟩
    exact ⟨earlier, attached_before, same.trans likewise⟩

/-- The steps of a handler change nothing where one looks. -/
def Handler.Leaves (look : Headers → Bytes → β) (handler : Handler) : Prop :=
  ∀ workflow, workflow = handler.inbound ∨ workflow = handler.outbound →
    ∀ step ∈ (workflow.map Workflow.steps).getD [], ∀ context,
      (step.task.run context).Keeps fun before after => before.1.Alike look after.1

theorem Handler.Leaves.runSteps
    {handler : Handler} (leaves : handler.Leaves look) {workflow : Option Workflow}
    (own : workflow = handler.inbound ∨ workflow = handler.outbound) (context : Context) :
    (Handler.runSteps workflow context).Keeps fun before after => before.1.Alike look after.1 :=
  Handler.runSteps_keeps (fun _ => .refl _) (fun _ _ _ => .trans)
    fun step member => leaves workflow own step member context

end

/-- The steps around a target count only where they change something. -/
theorem Handler.Passes.alike
    {handler : Handler} {target : Target} {context : Context} {scope : Scope}
    {begun asked answered done : Request × Session} {given response : Response}
    (passes : handler.Passes target context scope begun asked answered given done)
    (attached : done.1.response = some response)
    {β : Type} {look : Headers → Bytes → β} (leaves : handler.Leaves look) :
    look asked.1.headers asked.1.body = look begun.1.headers begun.1.body ∧
      look response.headers response.body = look given.headers given.body := by
  have before := leaves.runSteps (Or.inl rfl) context _ _ _ _ _ _ passes.entered
  have after := leaves.runSteps (Or.inr rfl) context _ _ _ _ _ _ passes.left
  rcases after.response response attached with ⟨other, own, same⟩
  obtain rfl := Option.some.inj own
  exact ⟨before.request, same⟩

/-! ## What is written -/

namespace Listener

variable {front : Front} {connection : Context} {raw : RawRequest} {session later : Session}
  {written : Response}

/-- A hub that reads a request is given it as it has arrived. -/
theorem eq_arrived
    {id : Uuid} {request : Request} (read : Request.ofRaw id raw = .ok request) :
    ∃ method, Method.ofString raw.method = .ok method ∧ request = arrived id method raw := by
  unfold Request.ofRaw at read
  split at read
  · cases read
  · rename_i method known
    split at read <;> cases read
    exact ⟨method, known, rfl⟩

/-- The report of a failure declares no length. -/
@[simp]
theorem values_reported (status : Status) (report : Failure.Report) :
    (reported status report).headers.values "content-length" = [] := rfl

theorem onlyMakes_of_bounded?
    {context : Context} {opened : Session}
    (bounded : bounded? front connection session = some (context, opened)) :
    session.OnlyMakes opened := by
  rw [bounded?] at bounded
  cases limit : front.requestTimeout with
  | none =>
      rw [limit] at bounded
      cases bounded
      exact ⟨_, rfl⟩
  | some timeout =>
      rw [limit] at bounded
      exact Context.onlyMakes_of_child? bounded

/-- What is written for a request is a report, or the response that a handler has left attached. -/
theorem serve_eq_done
    (served : serve front connection raw session = (.done written, later)) :
    (∃ status report, written = reported status report) ∨
      ∃ id method service handler inner scope opened changed closed, session.OnlyMakes opened ∧
        Method.ofString raw.method = .ok method ∧
          front.hub.resolve (Route.ofPath raw.uri.path).api (Route.ofPath raw.uri.path).service =
            some service ∧
          service.handler method = some handler ∧
          handler.run service.name inner scope (arrived id method raw) opened =
            (.done (), changed, closed) ∧
          changed.response = some written := by
  cases bounded : bounded? front connection session with
  | none =>
      simp only [serve, bounded] at served
      cases served
  | some bound =>
      rcases bound with ⟨context, opened⟩
      cases read : Request.ofRaw opened.freshId.1 raw with
      | error failure =>
          simp only [serve, bounded, Hub.handleRaw, read] at served
          cases served
          exact Or.inl ⟨_, _, rfl⟩
      | ok request =>
          rcases eq_arrived read with ⟨method, known, rfl⟩
          simp only [serve, bounded, Hub.handleRaw, read] at served
          rcases ended : Work.run (front.hub.handle context) (arrived opened.freshId.1 method raw)
            opened.freshId.2 with ⟨outcome, last, closed⟩
          rw [ended] at served
          cases outcome with
          | failed | interrupted | aborted => cases served
          | done result =>
              cases served
              cases result with
              | error failed => exact Or.inl ⟨_, _, rfl⟩
              | ok response =>
                  rcases Hub.handle_eq_ok ended with
                    ⟨service, handler, inner, scope, opening, changed, closing, made, found, handled,
                      ran, attached⟩
                  have begun : session.OnlyMakes opened.freshId.2 :=
                    (onlyMakes_of_bounded? bounded).trans ⟨_, rfl⟩
                  exact Or.inr ⟨_, method, service, handler, inner, scope, opening, changed, closing,
                    begun.trans made, known, found, handled, ran, attached⟩

/-- What an answer declares when it is relayed, by a handler whose steps leave header fields alone. -/
structure Relayed
    (handler : Handler) (relay : Relay) (method : Method) (raw : RawRequest) (session : Session)
    (asked answered : Request × Session) (given written : Response) : Prop where
  /-- What has arrived has passed the handler, and before it the session was as it had been given. -/
  passes : ∃ id context scope opened done, session.OnlyMakes opened ∧
    handler.Passes relay.target context scope (arrived id method raw, opened) asked answered given done ∧
      done.1.response = some written
  /-- The target is asked with the header fields that have arrived. -/
  asked_headers : asked.1.headers = raw.headers
  gives : relay.Gives asked.1 asked.2 answered.2 given
  /-- Its own header fields are written, all of them and no others. -/
  written_headers : written.headers = given.headers
  framed_iff : written.Framed ↔ given.headers.Declare written.body.length
  /-- The target that passes through leads to what the request declares. -/
  echoed_iff : relay = .passThrough → (written.Framed ↔ raw.headers.Declare written.body.length)
  /-- If the steps leave bodies alone as well, the answer is right exactly if the target is. -/
  whole : (handler.Leaves fun headers body => (headers, body)) →
    asked.1.body = raw.frames.flatten ∧ written.body = given.body ∧
      (written.Framed ↔ given.Framed)

/--
What a listener writes behind a target that relays is a report of its own, which declares no length, or it
has the header fields that the target has answered with, and declares what these declare.
-/
theorem serve_relays
    (front : Front) (connection : Context) (raw : RawRequest) (session : Session)
    {service : Service} {method : Method} {handler : Handler} {relay : Relay}
    (known : Method.ofString raw.method = .ok method)
    (found : front.hub.resolve (Route.ofPath raw.uri.path).api (Route.ofPath raw.uri.path).service =
      some service)
    (handled : service.handler method = some handler)
    (answers : handler.target = some relay.target)
    (leaves : handler.Leaves fun headers _ => headers) {written : Response} {later : Session}
    (served : serve front connection raw session = (.done written, later)) :
    (∃ status report, written = reported status report ∧
        written.headers.values "content-length" = []) ∨
      ∃ asked answered given,
        Relayed handler relay method raw session asked answered given written := by
  rcases serve_eq_done served with ⟨status, report, rfl⟩ |
    ⟨id, other, _, _, inner, scope, opened, changed, closed, made, known', found', handled', ran,
      attached⟩
  · exact Or.inl ⟨status, report, rfl, values_reported status report⟩
  · obtain rfl := Except.ok.inj (known'.symm.trans known)
    obtain rfl := Option.some.inj (found'.symm.trans found)
    obtain rfl := Option.some.inj (handled'.symm.trans handled)
    rcases Handler.run_eq_done ran with ⟨target, asked, answered, given, present, passes⟩
    obtain rfl := Option.some.inj (present.symm.trans answers)
    have gives := Relay.gives passes.targeted
    have fields := passes.alike attached leaves
    have framed_iff : written.Framed ↔ given.headers.Declare written.body.length := by
      rw [Response.Framed, fields.2]
    refine Or.inr ⟨asked, answered, given, {
      passes := ⟨id, inner, scope, opened, (changed, closed), made, passes, attached⟩
      asked_headers := fields.1
      gives
      written_headers := fields.2
      framed_iff
      echoed_iff := ?_
      whole := ?_ }⟩
    · rintro rfl
      have echoed : given = PassThrough.reflect asked.1 := gives
      rw [framed_iff, echoed, PassThrough.reflect, fields.1]
      exact Iff.rfl
    · intro whole
      have contents := passes.alike attached whole
      have bodies : written.body = given.body := congrArg Prod.snd contents.2
      refine ⟨congrArg Prod.snd contents.1, bodies, ?_⟩
      rw [framed_iff, bodies]
      exact Iff.rfl

/-- A handler that sends back what it is sent, with a mark behind the body. -/
def marking : Handler where
  serial := 0
  inbound := some (.ofSteps [⟨"mark", 0, "", none, Trial.marker "!"⟩])
  outbound := none
  target := some PassThrough.target
  targetName := none
  targetType := none

/-- A service with the handler `marking` alone. -/
def stamped : Service :=
  (Service.make "shop" "cart").setHandler .post marking

/-- A front whose hub has the service `stamped` alone. -/
def stall : Front :=
  { counter with hub := (Hub.make "store").install stamped }

/-- A request for the service `stamped` that declares the length of its body. -/
def letter : RawRequest :=
  { parcel with
    uri := ⟨none, "", "/shop/cart", none⟩
    headers := Headers.set [] "content-length" (Bytes.ofString "3") }

/-- A mark changes no header fields. -/
theorem marker_keeps (text : String) (context : Context) :
    ((Trial.marker text).run context).Keeps fun before after =>
      before.1.Alike (fun headers _ => headers) after.1 := by
  intro scope request session value changed later ended
  cases ended
  change request.Alike _ (Trial.mark (Bytes.ofString text) request)
  unfold Trial.mark
  split
  · rename_i response attached
    refine ⟨rfl, fun marked own => ⟨response, attached, ?_⟩⟩
    cases own
    rfl
  · rename_i unanswered
    refine ⟨rfl, fun response attached => ?_⟩
    cases unanswered.symm.trans attached

theorem marking_leaves : marking.Leaves fun headers _ => headers := by
  rintro workflow (rfl | rfl) step member context
  · obtain rfl := List.mem_singleton.mp member
    exact marker_keeps "!" context
  · cases member

/-- What `stall` answers to `letter`. -/
def stampedLetter : Response :=
  { Response.ofStatus .ok with headers := letter.headers, body := Bytes.ofString "abc!" }

theorem stall_serves :
    ∃ later, serve stall (.ofToken []) letter Dispatch.morning = (.done stampedLetter, later) :=
  ⟨_, rfl⟩

theorem serve_relays_letter :
    marking.Leaves (fun headers _ => headers) ∧
      ∃ later, serve stall (.ofToken []) letter Dispatch.morning = (.done stampedLetter, later) ∧
        ∃ asked answered given,
          Relayed marking .passThrough .post letter Dispatch.morning asked answered given
            stampedLetter := by
  rcases stall_serves with ⟨later, served⟩
  have known : Method.ofString letter.method = .ok .post := rfl
  have found : stall.hub.resolve (Route.ofPath letter.uri.path).api
      (Route.ofPath letter.uri.path).service = some stamped := rfl
  have handled : stamped.handler .post = some marking := rfl
  have answers : marking.target = some Relay.passThrough.target := rfl
  refine ⟨marking_leaves, later, served, ?_⟩
  rcases serve_relays stall (.ofToken []) letter Dispatch.morning known found handled answers
    marking_leaves served with ⟨status, report, -, undeclared⟩ | relayed
  · cases undeclared
  · exact relayed

/-- A length that was right when the request arrived is wrong behind a step that changes the body. -/
theorem letter_outgrows_length :
    marking.Leaves (fun headers _ => headers) ∧
      letter.headers.Declare letter.frames.flatten.length ∧
      ∃ written later,
        serve stall (.ofToken []) letter Dispatch.morning = (.done written, later) ∧
          written.status = .ok ∧ ¬ written.Framed := by
  have spelled : Bytes.visibleText? (Bytes.ofString "3") = some "3" := by decide +kernel
  have three : Transport.length? (Text.trim "3") = some 3 := by decide +kernel
  rcases stall_serves with ⟨later, served⟩
  refine ⟨marking_leaves, fun value member => ?_, stampedLetter, later, served, rfl, fun framed => ?_⟩
  · obtain rfl := List.mem_singleton.mp member
    exact ⟨"3", spelled, three⟩
  · rcases framed (Bytes.ofString "3") (List.mem_singleton_self _) with ⟨text, read, four⟩
    obtain rfl := Option.some.inj (spelled.symm.trans read)
    cases three.symm.trans four

end Listener

end RequestHub
