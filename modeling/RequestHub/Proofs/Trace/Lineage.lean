import RequestHub.Plugin.TraceStart
import RequestHub.Proofs.Deadline.Parts
import RequestHub.Proofs.Dispatch.Refinement
import RequestHub.Proofs.Trace.Header
import RequestHub.Remote.Forward

/-!
# One trace for a dispatch

A hub handles a request in a span of its own, which continues the span that the request tells of.  All work
of the dispatch belongs to that span, so that the steps may do to the header fields what they like: a task
that starts a span, and every posting to a remote hub, tells of the one trace.

What is posted is followed through the work whatever becomes of it, since a dispatch that is cut off has
posted all the same.  `Posts` composes along the parts of work, over the attempts of a backoff by induction
on their number, and over the steps of a handler by induction on the steps.
-/

namespace RequestHub

/-! ## What is posted -/

namespace Session

/-- A session goes on with more postings, and each of them is as it should be. -/
def Posts (holds : Posting → Prop) (before after : Session) : Prop :=
  ∃ postings, after.posted = before.posted ++ postings ∧ ∀ posting ∈ postings, holds posting

variable {holds : Posting → Prop} {first middle last : Session}

theorem Posts.of_same (same : last.posted = first.posted) : first.Posts holds last :=
  ⟨[], by rw [same, List.append_nil], fun _ member => absurd member List.not_mem_nil⟩

theorem Posts.trans (before : first.Posts holds middle) (after : middle.Posts holds last) :
    first.Posts holds last := by
  obtain ⟨postings, posted, each⟩ := before
  obtain ⟨others, more, eachOther⟩ := after
  refine ⟨postings ++ others, by rw [more, posted, List.append_assoc], ?_⟩
  exact List.forall_mem_append.mpr ⟨each, eachOther⟩

end Session

namespace Work

variable {σ α β : Type} {holds : Posting → Prop} {span : Option Span}

/-- Whatever becomes of work that belongs to a span, all that it posts is as it should be. -/
def Posts (holds : Posting → Prop) (span : Option Span) (work : Work σ α) : Prop :=
  ∀ (scope : Scope) (subject : σ) (session : Session), scope.span = span →
    session.Posts holds (work scope subject session).2.2

theorem Posts.of_same
    {work : Work σ α}
    (same : ∀ scope subject session, (work scope subject session).2.2.posted = session.posted) :
    work.Posts holds span :=
  fun scope subject session _ => .of_same (same scope subject session)

theorem Posts.pure (value : α) : (pure value : Work σ α).Posts holds span :=
  .of_same fun _ _ _ => rfl

section

variable {work : Work σ α} {scope : Scope} {subject : σ} {session : Session}

theorem posts_bind
    {next : α → Work σ β}
    (around : scope.span = span)
    (before : session.Posts holds (work scope subject session).2.2)
    (after : ∀ value, (next value).Posts holds span) :
    session.Posts holds ((work >>= next) scope subject session).2.2 := by
  -- The rest of the work can add to the postings only if there is a value to go on with.
  rcases ended : work scope subject session with ⟨value | failure | _ | _, changed, later⟩ <;>
    rw [ended] at before
  · rw [bind_of_done ended]
    exact before.trans (after value scope changed later around)
  · rwa [bind_of_failed ended]
  · rwa [bind_of_interrupted ended]
  · rwa [bind_of_aborted ended]

theorem posts_attempt (before : session.Posts holds (work scope subject session).2.2) :
    session.Posts holds (attempt work scope subject session).2.2 := by
  rw [attempt]
  rcases ended : work scope subject session with ⟨value | failure | _ | _, changed, later⟩ <;>
    rw [ended] at before <;>
    exact before

theorem posts_within
    {context : Context}
    (before : session.Posts holds
      (work { scope with bounds := context :: scope.bounds } subject session).2.2) :
    session.Posts holds (within context work scope subject session).2.2 := by
  rw [within]
  split
  · exact .of_same rfl
  · rcases ended : work { scope with bounds := context :: scope.bounds } subject session with
      ⟨value | failure | _ | _, changed, later⟩ <;> rw [ended] at before
    · exact before
    · exact before
    -- An interruption is passed on or turned into a failure, but what was posted stays posted.
    · dsimp only
      split <;> exact before
    · exact before

end

theorem Posts.bind
    {work : Work σ α} {next : α → Work σ β}
    (first : work.Posts holds span)
    (second : ∀ value, (next value).Posts holds span) :
    (work >>= next).Posts holds span :=
  fun scope subject session around => posts_bind around (first scope subject session around) second

theorem Posts.within {work : Work σ α} (context : Context) (posts : work.Posts holds span) :
    (within context work).Posts holds span :=
  fun _ subject session around => posts_within (posts _ subject session around)

theorem waitUntil_posts (instant : Nat) : (waitUntil instant : Work σ Unit).Posts holds span := by
  refine .of_same fun scope subject session => ?_
  rw [waitUntil]
  split
  · rfl
  · split <;> rfl

theorem wait_posts (duration : Nat) : (wait duration : Work σ Unit).Posts holds span :=
  fun scope subject session around => waitUntil_posts _ scope subject session around

theorem ofExcept_posts (part : Except Failure α) : (ofExcept part : Work σ α).Posts holds span := by
  cases part with
  | ok value => exact .pure value
  | error failure => exact .of_same fun _ _ _ => rfl

end Work

/-! ## Attempts -/

namespace Backoff

open Work

variable {σ α ε : Type} {holds : Posting → Prop} {span : Option Span}

theorem pause_posts (delay : Nat) : (pause delay : Work σ Unit).Posts holds span := by
  refine Posts.bind ?_ fun extra => ?_
  · rw [extra]
    split
    · exact .pure 0
    · exact .bind (.of_same fun _ _ _ => rfl) fun _ => .pure _
  · split
    · exact wait_posts _
    · exact .of_same fun _ _ _ => rfl

/-- An operation that is tried again posts what each of its attempts posts. -/
theorem attempt_posts
    {backoff : Backoff} {isUseless : ε → Bool} {operation : Work σ (Except ε α)}
    (each : operation.Posts holds span)
    (number delay more : Nat) :
    (attempt backoff isUseless operation number delay more).Posts holds span := by
  induction more generalizing number delay with
  | zero =>
      rw [attempt]
      refine each.bind fun result => ?_
      cases result with
      | ok value => exact .pure _
      | error error =>
          dsimp only
          split <;> exact .pure _
  | succ more ih =>
      rw [attempt]
      refine each.bind fun result => ?_
      cases result with
      | ok value => exact .pure _
      | error error =>
          dsimp only
          split
          · exact .pure _
          · exact (pause_posts delay).bind fun _ => ih (number + 1) (backoff.next delay)

end Backoff

namespace Remote

open Work

variable {σ : Type} {holds : Posting → Prop} {span : Option Span}

theorem arrives_posts (limit : Option Nat) (duration : Nat) :
    (arrives limit duration : Work σ Bool).Posts holds span := by
  rw [arrives]
  split
  · exact (wait_posts _).bind fun _ => .pure _
  · exact (wait_posts _).bind fun _ => .pure _

/-- Nothing is posted while an answer is taken in. -/
theorem receive_posts (client : Client) (url : Url) (delivery : Delivery) :
    (receive client url delivery : Work σ _).Posts holds span := by
  cases delivery with
  | refused => exact .pure _
  | broken delay => exact (arrives_posts _ _).bind fun _ => .pure _
  | answered delay status more body =>
      refine (arrives_posts _ _).bind fun came => ?_
      cases came with
      | true => exact (arrives_posts _ _).bind fun _ => .pure _
      | false => exact .pure _

/-- What is sent has the header fields of the span. -/
theorem send_posts
    (each : ∀ posting : Posting, posting.headers = postedHeaders span → holds posting)
    (client : Client)
    (url : Url)
    (envelope : RequestEnvelope) :
    (send client url envelope : Work σ _).Posts holds span := by
  intro scope subject session around
  have asked : Work.span scope subject session = (.done span, subject, session) := by
    rw [Work.span, around]
  rw [send, bind_of_done asked]
  refine Posts.bind (fun scope subject session _ => ?_) (receive_posts client url) scope subject session
    around
  exact ⟨[⟨url.text, postedHeaders span, _⟩], rfl, List.forall_mem_singleton.mpr (each _ rfl)⟩

/-- An attempt sends at most once. -/
theorem attempt_posts
    (each : ∀ posting : Posting, posting.headers = postedHeaders span → holds posting)
    (client : Client)
    (address : String)
    (envelope : RequestEnvelope) :
    (attempt client address envelope : Work σ _).Posts holds span := by
  unfold attempt
  split
  · exact .pure _
  · split
    · exact send_posts each client _ envelope
    · exact .pure _

theorem forward_posts
    (each : ∀ posting : Posting, posting.headers = postedHeaders span → holds posting)
    (client : Client)
    (request : Request) :
    (forward client request : Work σ _).Posts holds span := by
  refine (Backoff.attempt_posts (attempt_posts each client _ _) _ _ _).bind fun result => ?_
  cases result with
  | ok reply => exact .pure reply
  | error givenUp => exact .of_same fun _ _ _ => rfl

theorem task_posts
    (each : ∀ posting : Posting, posting.headers = postedHeaders span → holds posting)
    (client : Client)
    (context : Context) :
    ((task client).run context).Posts holds span := by
  refine Posts.bind (.of_same fun _ _ _ => rfl) fun request => ?_
  refine ((forward_posts each client request).within context).bind fun reply => ?_
  refine (ofExcept_posts _).bind fun status => (ofExcept_posts _).bind fun headers => ?_
  exact .of_same fun _ _ _ => rfl

theorem target_posts
    (each : ∀ posting : Posting, posting.headers = postedHeaders span → holds posting)
    (client : Client)
    (context : Context) :
    ((target client).run context).Posts holds span := by
  refine Posts.bind (.of_same fun _ _ _ => rfl) fun request => ?_
  refine ((forward_posts each client request).within context).bind fun reply => ?_
  exact (ofExcept_posts _).bind fun response => .pure _

end Remote

/-! ## Handlers -/

/-- Work that posts nothing, whatever else it does. -/
def Work.Silent {α : Type} (work : Context → Work Request α) : Prop :=
  ∀ context scope request session, (work context scope request session).2.2.posted = session.posted

/-- A task starts a span, asks a remote hub, or makes of the request what it likes. -/
inductive Task.Tracing : Task → Prop where
  | starts (name : String) : Tracing (TraceStart.task name)
  | asks (client : Remote.Client) : Tracing (Remote.task client)
  | edits {task : Task} (silent : Work.Silent task.run) : Tracing task

/-- A target asks a remote hub, or answers the request by itself. -/
inductive Target.Tracing : Target → Prop where
  | asks (client : Remote.Client) : Tracing (Remote.target client)
  | answers {target : Target} (silent : Work.Silent target.run) : Tracing target

/-- A handler is made of such tasks, in any order and number, and such a target. -/
structure Handler.Tracing (handler : Handler) : Prop where
  inbound : ∀ step ∈ stepsOf handler.inbound, step.task.Tracing
  target : ∀ target, handler.target = some target → target.Tracing
  outbound : ∀ step ∈ stepsOf handler.outbound, step.task.Tracing

section

variable {holds : Posting → Prop} {span : Option Span}

theorem Work.Silent.posts
    {α : Type} {work : Context → Work Request α} (silent : Work.Silent work) (context : Context) :
    (work context).Posts holds span :=
  .of_same (silent context)

theorem TraceStart.silent (name : String) : Work.Silent (TraceStart.task name).run :=
  fun _ _ _ _ => rfl

theorem Hub.conclude_posts (service : Service) (id : Uuid) (ended : Except Failure Unit) :
    (Hub.conclude service id ended).Posts holds span := by
  refine .of_same fun scope request session => ?_
  have taken : Hub.takeResponse scope request session =
      (.done request.response, request.detach, session) := rfl
  rw [Hub.conclude, Work.bind_of_done taken]
  cases ended <;> cases request.response <;> rfl

variable (each : ∀ posting : Posting, posting.headers = Remote.postedHeaders span → holds posting)

include each

theorem Task.Tracing.posts {task : Task} (tracing : task.Tracing) (context : Context) :
    (task.run context).Posts holds span := by
  cases tracing with
  | starts name => exact (TraceStart.silent name).posts context
  | asks client => exact Remote.task_posts each client context
  | edits silent => exact silent.posts context

theorem Target.Tracing.posts {target : Target} (tracing : target.Tracing) (context : Context) :
    (target.run context).Posts holds span := by
  cases tracing with
  | asks client => exact Remote.target_posts each client context
  | answers silent => exact silent.posts context

theorem Workflow.runSteps_posts
    {steps : List Step} (tracing : ∀ step ∈ steps, step.task.Tracing) (context : Context) :
    (Workflow.runSteps context steps).Posts holds span := by
  induction steps with
  | nil => exact .pure ()
  | cons step steps ih =>
      obtain ⟨first, others⟩ := List.forall_mem_cons.mp tracing
      exact (first.posts each context).bind fun _ => ih others

theorem Handler.Tracing.posts
    {handler : Handler} (tracing : handler.Tracing) (service : String) (context : Context) :
    (handler.run service context).Posts holds span := by
  refine Work.Posts.bind ?_ fun _ => Work.Posts.bind ?_ fun _ => ?_
  · rw [enter, Dispatch.runSteps_eq]
    exact Workflow.runSteps_posts each tracing.inbound context
  · unfold answer
    cases present : handler.target with
    | none => exact .of_same fun _ _ _ => rfl
    | some target =>
        refine ((tracing.target target present).posts each context).bind fun response => ?_
        cases response with
        | none => exact .of_same fun _ _ _ => rfl
        | some response => exact .of_same fun _ _ _ => rfl
  · rw [leave, Dispatch.runSteps_eq]
    exact Workflow.runSteps_posts each tracing.outbound context

namespace Hub

variable {hub : Hub} {context : Context} {scope : Scope} {request : Request} {session : Session}

/-- What a dispatch posts, whatever becomes of it, its handler has posted. -/
theorem dispatch_posts
    {service : Service}
    (around : scope.span = span)
    (tracing : ∀ {handler}, service.handler request.method = some handler → handler.Tracing) :
    session.Posts holds (service.dispatch context scope request session).2.2 := by
  have handled (inner : Context) (scope : Scope) (around : scope.span = span) (later : Session) :
      later.Posts holds (service.handle inner scope request later).2.2 := by
    cases found : service.handler request.method with
    | none =>
        rw [Dispatch.handle_of_no_handler found]
        exact .of_same rfl
    | some handler =>
        rw [Dispatch.handle_of_handler found]
        exact (tracing found).posts each service.name inner scope request later around
  cases enclosed : Dispatch.enclosed? service context session with
  | none =>
      rw [Dispatch.dispatch_of_unenclosed enclosed]
      exact .of_same rfl
  | some pair =>
      obtain ⟨inner, opened⟩ := pair
      -- The context of the service is another one, the span is not.
      have same : opened.posted = session.posted := by rw [Dispatch.eq_of_enclosed enclosed]
      rw [Dispatch.dispatch_of_enclosed enclosed]
      exact (Session.Posts.of_same same).trans (Work.posts_within (handled inner
        { scope with bounds := inner :: scope.bounds } around opened))

/-- A hub posts what the handler of the route posts. -/
theorem route_posts
    (around : scope.span = span)
    (tracing : ∀ {service handler},
      hub.resolve request.route.api request.route.service = some service →
      service.handler request.method = some handler → handler.Tracing) :
    session.Posts holds (hub.route context scope request session).2.2 := by
  cases found : hub.resolve request.route.api request.route.service with
  | none =>
      have asked : Work.request scope request session = (.done request, request, session) := rfl
      rw [route, Work.bind_of_done asked, found]
      exact .of_same rfl
  | some service =>
      rw [Dispatch.route_of_found found]
      refine Work.posts_bind around (Work.posts_attempt ?_) (conclude_posts service request.id)
      exact dispatch_posts each around fun handled => tracing found handled

end Hub

end

end RequestHub
