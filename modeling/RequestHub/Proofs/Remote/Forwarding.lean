import RequestHub.Proofs.Remote.Delays
import RequestHub.Remote.Forward

/-!
# How a request is forwarded

A request that is forwarded is posted again and again, always in the same posting, until an attempt is
answered, its fault is final, or all attempts have been made.  What an attempt comes to depends on the
delivery of its posting alone: `resultOf` says how.  `Forwarded` says what a whole course of attempts leaves
behind and how it ends; the main statement is that every request is forwarded in this sense.

Besides the ends that a hub is told of there are two others: a context around the work may cut a wait off,
and a wait may be too long for a duration together with its random part.
-/

namespace RequestHub

/-! ## Waits and pauses -/

/-- A context around the work has ended. -/
def Scope.HasEnded (scope : Scope) (session : Session) : Prop :=
  ∃ context ∈ scope.bounds, context.hasEnded session = true

/-- Whether a context has ended depends on the instant and on what was cancelled. -/
theorem Scope.HasEnded.of_eq
    {scope : Scope} {session other : Session} (past : scope.HasEnded session)
    (now : other.now = session.now) (cancelled : other.cancelled = session.cancelled) :
    scope.HasEnded other := by
  obtain ⟨context, among, ended⟩ := past
  refine ⟨context, among, ?_⟩
  rw [Context.hasEnded, Session.isCancelled, Context.isOverdue, now, cancelled]
  exact ended

/-- At the instant at which a context cuts a wait off, the context has ended. -/
theorem Context.hasEnded_of_cutOff?
    {context : Context} {session : Session} {cut : Nat} (cuts : context.cutOff? session = some cut) :
    context.hasEnded { session with now := cut } = true := by
  rw [cutOff?] at cuts
  rw [hasEnded, Bool.or_eq_true]
  split at cuts
  · rename_i cancelled
    exact .inl cancelled
  · obtain ⟨deadline, limited, rfl⟩ := Option.map_eq_some_iff.mp cuts
    right
    rw [isOverdue, limited]
    exact decide_eq_true (Nat.le_trans (Session.le_tick deadline) (Nat.le_max_right ..))

theorem Scope.hasEnded_of_cutOff?
    {scope : Scope} {session : Session} {cut : Nat}
    (first : Work.cutOff? scope.bounds session = some cut) :
    scope.HasEnded { session with now := cut } := by
  obtain ⟨context, around, cuts⟩ := List.mem_filterMap.mp (List.min?_mem first)
  exact ⟨context, around, Context.hasEnded_of_cutOff? cuts⟩

/-- A wait is done or cut off by a context that has ended, and moves the clock alone. -/
theorem Work.wait_ends
    {σ : Type} (duration : Nat) (scope : Scope) (subject : σ) (session : Session) :
    ∃ outcome now, wait duration scope subject session = (outcome, subject, { session with now }) ∧
      (outcome = .done () ∨ outcome = .interrupted ∧ scope.HasEnded { session with now }) := by
  rw [wait, waitUntil]
  split
  · exact ⟨_, session.now, rfl, .inl rfl⟩
  · split
    · rename_i cut early
      obtain ⟨first, -⟩ := Option.filter_eq_some_iff.mp early
      exact ⟨_, cut, rfl, .inr ⟨rfl, Scope.hasEnded_of_cutOff? first⟩⟩
    · exact ⟨_, _, rfl, .inl rfl⟩

/-- A pause ends as its wait does, or it is aborted because the wait would be too long. -/
theorem Backoff.pause_ends
    {σ : Type} (delay : Nat) (scope : Scope) (subject : σ) (session : Session) :
    ∃ outcome now drawn,
      pause delay scope subject session = (outcome, subject, { session with now, drawn }) ∧
        (outcome = .done () ∨
          (outcome = .interrupted ∧ scope.HasEnded { session with now, drawn }) ∨
          outcome = .aborted ∧ Duration.greatest < delay + randomPart delay session) := by
  obtain ⟨drawn, paused⟩ := pause_eq delay scope subject session
  rw [paused]
  split
  · obtain ⟨outcome, now, waited, ends⟩ :=
      Work.wait_ends (delay + randomPart delay session) scope subject { session with drawn }
    exact ⟨outcome, now, drawn, waited, ends.imp_right .inl⟩
  · rename_i long
    exact ⟨.aborted, session.now, drawn, rfl, .inr (.inr ⟨rfl, Nat.lt_of_not_le long⟩)⟩

namespace Remote

variable {σ : Type}

/-! ## Attempts -/

/-- The address to which a client posts what it forwards, if anything can be posted there. -/
def Client.url? (client : Client) (request : Request) : Option Url :=
  (Url.ofString? (client.urlFor request.route.path)).filter fun url => url.hasHost && url.isPostable

/-- What a request is posted in. -/
def posting (url : Url) (request : Request) (span : Option Span) : Posting where
  url := url.text
  headers := postedHeaders span
  body := Bytes.ofString (RequestEnvelope.ofRequest request).toJson.render

/-- The postings of so many attempts. -/
def postings (client : Client) (request : Request) (span : Option Span) (count : Nat) : List Posting :=
  match client.url? request with
  | none => []
  | some url => List.replicate count (posting url request span)

theorem postings_of_some
    {client : Client} {request : Request} {url : Url} (known : client.url? request = some url)
    (span : Option Span) (count : Nat) :
    postings client request span count = List.replicate count (posting url request span) := by
  rw [postings, known]

theorem postings_of_none
    {client : Client} {request : Request} (unknown : client.url? request = none)
    (span : Option Span) (count : Nat) : postings client request span count = [] := by
  rw [postings, unknown]

@[simp]
theorem postings_zero (client : Client) (request : Request) (span : Option Span) :
    postings client request span 0 = [] := by
  cases known : client.url? request with
  | none => exact postings_of_none known span 0
  | some url => exact postings_of_some known span 0

theorem postings_add (client : Client) (request : Request) (span : Option Span) (count more : Nat) :
    postings client request span (count + more) =
      postings client request span count ++ postings client request span more := by
  cases known : client.url? request with
  | none => simp [postings_of_none known]
  | some url =>
      rw [postings_of_some known, postings_of_some known, postings_of_some known]
      exact List.replicate_add ..

/-- A client does not wait for what comes after so many milliseconds. -/
def Client.isLate (client : Client) (delay : Nat) : Bool :=
  client.limit?.any (· ≤ delay * Duration.milli)

/-- What a client gets of a body, which comes so long after the status line. -/
def Client.received (client : Client) (delay more : Nat) (body : Option Bytes) : Option Bytes :=
  if client.isLate (delay + more) then none else body

/-- What the delivery of a posting amounts to. -/
def answerOf (client : Client) (url : Url) : Delivery → Except PluginFault ResponseEnvelope
  | .refused => .error (unanswered url)
  | .broken _ => .error (unanswered url)
  | .answered delay status more body =>
      if client.isLate delay then .error (unanswered url)
      else readReply status (client.received delay more body)

/-- The fault of an attempt of which nothing can be posted. -/
def unpostable (client : Client) (request : Request) : PluginFault :=
  match Url.ofString? (client.urlFor request.route.path) with
  | none => .transport "builder error"
  | some url => .transport ("builder error for url (" ++ url.text ++ ")")

/-- The result of an attempt whose posting, if there is one, has a delivery. -/
def resultOf (client : Client) (request : Request) (delivery : Delivery) :
    Except PluginFault ResponseEnvelope :=
  match client.url? request with
  | none => .error (unpostable client request)
  | some url => answerOf client url delivery

/-- A wait with a value behind it is done with the value, or cut off by a context that has ended. -/
theorem wait_pure_ends
    {α : Type} (duration : Nat) (value : α) (scope : Scope) (subject : σ) (session : Session) :
    ∃ outcome now,
      (Work.wait duration >>= fun _ => pure value : Work σ α) scope subject session =
        (outcome, subject, { session with now }) ∧
      (outcome = .done value ∨ outcome = .interrupted ∧ scope.HasEnded { session with now }) := by
  obtain ⟨outcome, now, waited, rfl | ⟨rfl, past⟩⟩ := Work.wait_ends duration scope subject session
  · exact ⟨_, now, Work.bind_of_done waited _, .inl rfl⟩
  · exact ⟨_, now, Work.bind_of_interrupted waited _, .inr ⟨rfl, past⟩⟩

/-- Something arrives unless there is no time for it, or a context cuts the wait for it off. -/
theorem arrives_ends
    (limit : Option Nat) (duration : Nat) (scope : Scope) (subject : σ) (session : Session) :
    ∃ outcome now,
      arrives limit duration scope subject session = (outcome, subject, { session with now }) ∧
      (outcome = .done (!limit.any (· ≤ duration)) ∨
        outcome = .interrupted ∧ scope.HasEnded { session with now }) := by
  rw [arrives]
  cases limit with
  | none => exact wait_pure_ends duration true scope subject session
  | some limit =>
      rw [Option.any_some, Option.filter_some]
      by_cases early : limit ≤ duration
      · rw [decide_eq_true early]
        exact wait_pure_ends limit false scope subject session
      · rw [decide_eq_false early]
        exact wait_pure_ends duration true scope subject session

/-- What is late for the time that is left is late from the beginning. -/
theorem any_left_eq (limit : Option Nat) (first second : Nat) :
    (limit.map (· - first)).any (· ≤ second) = limit.any (· ≤ first + second) := by
  cases limit with
  | none => rfl
  | some limit =>
      simp only [Option.map_some, Option.any_some, decide_eq_decide]
      exact Nat.sub_le_iff_le_add'

/-- What is taken in is answered by the delivery, unless a context cuts the wait for it off. -/
theorem receive_ends
    (client : Client) (url : Url) (delivery : Delivery) (scope : Scope) (subject : σ)
    (session : Session) :
    ∃ outcome now,
      receive client url delivery scope subject session = (outcome, subject, { session with now }) ∧
      (outcome = .done (answerOf client url delivery) ∨
        outcome = .interrupted ∧ scope.HasEnded { session with now }) := by
  cases delivery with
  | refused => exact ⟨_, session.now, rfl, .inl rfl⟩
  | broken delay =>
      obtain ⟨outcome, now, waited, rfl | ⟨rfl, past⟩⟩ :=
        arrives_ends client.limit? (delay * Duration.milli) scope subject session
      · exact ⟨_, now, Work.bind_of_done waited _, .inl rfl⟩
      · exact ⟨_, now, Work.bind_of_interrupted waited _, .inr ⟨rfl, past⟩⟩
  | answered delay status more body =>
      rw [receive, answerOf]
      obtain ⟨outcome, now, waited, rfl | ⟨rfl, past⟩⟩ :=
        arrives_ends client.limit? (delay * Duration.milli) scope subject session
      · rw [Work.bind_of_done waited, Client.isLate]
        cases client.limit?.any (· ≤ delay * Duration.milli) with
        | true => exact ⟨_, now, rfl, .inl rfl⟩
        | false =>
            obtain ⟨outcome, later, rested, rfl | ⟨rfl, past⟩⟩ :=
              arrives_ends (client.limit?.map (· - delay * Duration.milli)) (more * Duration.milli)
                scope subject { session with now }
            · refine ⟨_, later, Work.bind_of_done rested _, .inl ?_⟩
              rw [any_left_eq, ← Nat.add_mul, Client.received, Client.isLate]
              cases client.limit?.any (· ≤ (delay + more) * Duration.milli) with
              | true => rfl
              | false => rfl
            · exact ⟨_, later, Work.bind_of_interrupted rested _, .inr ⟨rfl, past⟩⟩
      · exact ⟨_, now, Work.bind_of_interrupted waited _, .inr ⟨rfl, past⟩⟩

/-- What is posted once is answered by its delivery, unless a context cuts the wait for it off. -/
theorem send_ends
    (client : Client) (url : Url) (request : Request) (scope : Scope) (subject : σ)
    (session : Session) :
    ∃ outcome now,
      send client url (RequestEnvelope.ofRequest request) scope subject session =
        (outcome, subject,
          { session with now, posted := session.posted ++ [posting url request scope.span] }) ∧
      (outcome = .done (answerOf client url (session.delivery session.posted.length)) ∨
        outcome = .interrupted ∧ scope.HasEnded { session with now }) := by
  have asked : Work.span scope subject session = (.done scope.span, subject, session) := rfl
  have taken : Work.take (fun session => session.post ⟨url.text, postedHeaders scope.span, Bytes.ofString
      (RequestEnvelope.ofRequest request).toJson.render⟩) scope subject session =
        (.done (session.delivery session.posted.length), subject,
          { session with posted := session.posted ++ [posting url request scope.span] }) := rfl
  rw [send, Work.bind_of_done asked, Work.bind_of_done taken]
  exact receive_ends client url _ scope subject
    { session with posted := session.posted ++ [posting url request scope.span] }

/-- An attempt posts once, if anything can be posted, and has the result of the delivery. -/
theorem attempt_ends
    (client : Client) (request : Request) (scope : Scope) (subject : σ) (session : Session) :
    ∃ outcome now,
      attempt client (client.urlFor request.route.path) (RequestEnvelope.ofRequest request) scope
          subject session =
        (outcome, subject,
          { session with now, posted := session.posted ++ postings client request scope.span 1 }) ∧
      (outcome = .done (resultOf client request (session.delivery session.posted.length)) ∨
        outcome = .interrupted ∧ scope.HasEnded { session with now }) := by
  rw [attempt]
  cases read : Url.ofString? (client.urlFor request.route.path) with
  | none =>
      have unknown : client.url? request = none := by
        rw [Client.url?, read]
        rfl
      have fault : unpostable client request = .transport "builder error" := by
        rw [unpostable, read]
      rw [postings_of_none unknown, List.append_nil, resultOf, unknown]
      exact ⟨_, session.now, rfl, .inl (by rw [fault])⟩
  | some url =>
      dsimp only
      split
      · rename_i legal
        have known : client.url? request = some url := by
          rw [Client.url?, read]
          exact if_pos legal
        rw [postings_of_some known, resultOf, known]
        exact send_ends client url request scope subject session
      · rename_i illegal
        have unknown : client.url? request = none := by
          rw [Client.url?, read]
          exact if_neg illegal
        have fault : unpostable client request =
            .transport ("builder error for url (" ++ url.text ++ ")") := by
          rw [unpostable, read]
        rw [postings_of_none unknown, List.append_nil, resultOf, unknown]
        exact ⟨_, session.now, rfl, .inl (by rw [fault])⟩

/-! ## The course of the attempts -/

/-- The result of the attempt behind so many others, all of which post. -/
def resultAt (client : Client) (request : Request) (session : Session) (index : Nat) :
    Except PluginFault ResponseEnvelope :=
  resultOf client request (session.delivery (session.posted.length + index))

/-- A session after so many attempts, at an instant and with a number of random lengths drawn. -/
def sessionAfter (client : Client) (request : Request) (span : Option Span) (session : Session)
    (count now drawn : Nat) : Session :=
  { session with now, drawn, posted := session.posted ++ postings client request span count }

theorem resultAt_zero (client : Client) (request : Request) (session : Session) :
    resultAt client request session 0 =
      resultOf client request (session.delivery session.posted.length) := rfl

@[simp]
theorem resultAt_sessionAfter
    (client : Client) (request : Request) (span : Option Span) (session : Session)
    (count now drawn : Nat) :
    resultAt client request (sessionAfter client request span session count now drawn) 0 =
      resultAt client request session count := by
  rw [resultAt, resultAt, resultOf, resultOf, sessionAfter]
  cases known : client.url? request with
  | none => rfl
  | some url => simp [postings_of_some known]

/-- The session behind one more posting. -/
theorem sessionAfter_succ
    (client : Client) (request : Request) (span : Option Span) (session : Session)
    (count now later drawn : Nat) :
    { sessionAfter client request span session count now drawn with
      now := later
      posted := (sessionAfter client request span session count now drawn).posted ++
        postings client request span 1 } =
      sessionAfter client request span session (count + 1) later drawn := by
  simp only [sessionAfter, postings_add, List.append_assoc]

/-- An attempt adds its posting, and has the result of its number. -/
theorem attempt_after
    (client : Client) (request : Request) (scope : Scope) (subject : σ) (session : Session)
    (count now drawn : Nat) :
    ∃ outcome later,
      attempt client (client.urlFor request.route.path) (RequestEnvelope.ofRequest request) scope
          subject (sessionAfter client request scope.span session count now drawn) =
        (outcome, subject, sessionAfter client request scope.span session (count + 1) later drawn) ∧
      (outcome = .done (resultAt client request session count) ∨
        outcome = .interrupted ∧
          scope.HasEnded (sessionAfter client request scope.span session (count + 1) later drawn)) := by
  obtain ⟨outcome, later, ended, outcomes⟩ := attempt_ends client request scope subject
    (sessionAfter client request scope.span session count now drawn)
  rw [sessionAfter_succ] at ended
  rw [← resultAt_zero, resultAt_sessionAfter] at outcomes
  refine ⟨outcome, later, ended, outcomes.imp_right fun stopped => ⟨stopped.1, ?_⟩⟩
  exact stopped.2.of_eq rfl rfl

/-- An attempt that is done has the result of its number. -/
theorem attempt_done
    {client : Client} {request : Request} {scope : Scope} {subject : σ} {session : Session}
    {count now drawn : Nat} {result : Except PluginFault ResponseEnvelope} {there : σ × Session}
    (ended : attempt client (client.urlFor request.route.path) (RequestEnvelope.ofRequest request)
      scope subject (sessionAfter client request scope.span session count now drawn) =
        (.done result, there)) :
    resultAt client request session count = result ∧
      ∃ later,
        there = (subject, sessionAfter client request scope.span session (count + 1) later drawn) := by
  obtain ⟨outcome, later, tried, outcomes⟩ :=
    attempt_after client request scope subject session count now drawn
  obtain ⟨same, rfl⟩ := Prod.ext_iff.mp (tried.symm.trans ended)
  refine ⟨?_, later, rfl⟩
  obtain rfl | ⟨rfl, -⟩ := outcomes
  · exact Outcome.done.inj same
  · cases same

/-- The attempts before any one post the same, and fail in such a way that another one may succeed. -/
theorem trying_spec
    {client : Client} {request : Request} {scope : Scope} {subject : σ} {session : Session}
    {errors : List PluginFault} {here : σ × Session}
    (trying : Backoff.Trying client.backoff (fun fault => !fault.isRetryable)
      (attempt client (client.urlFor request.route.path) (RequestEnvelope.ofRequest request))
      scope (subject, session) errors here) :
    (∃ now drawn,
      here = (subject, sessionAfter client request scope.span session errors.length now drawn)) ∧
    ∀ index < errors.length, ∃ fault,
      resultAt client request session index = .error fault ∧ fault.isRetryable = true := by
  induction trying with
  | first =>
      refine ⟨⟨session.now, session.drawn, ?_⟩, fun index before => absurd before (Nat.not_lt_zero index)⟩
      rw [sessionAfter, List.length_nil, postings_zero, List.append_nil]
  | @again errors error here tried rested before failed useful left paused ih =>
      obtain ⟨⟨now, drawn, rfl⟩, earlier⟩ := ih
      obtain ⟨result, later, rfl⟩ := attempt_done failed
      obtain ⟨_, now, drawn, resting, -⟩ := Backoff.pause_ends
        (client.backoff.base errors.length) scope subject
        (sessionAfter client request scope.span session (errors.length + 1) later drawn)
      obtain ⟨-, rfl⟩ := Prod.ext_iff.mp (resting.symm.trans paused)
      have counted : (errors ++ [error]).length = errors.length + 1 := List.length_append
      rw [counted]
      refine ⟨⟨now, drawn, rfl⟩, fun index before => ?_⟩
      obtain earlier_index | rfl := Nat.lt_succ_iff_lt_or_eq.mp before
      · exact earlier index earlier_index
      · exact ⟨error, result, by simpa using useful⟩

/-! ## The end of the attempts -/

/-- How forwarding ends with an attempt and in a session, given the result of each attempt. -/
inductive Concludes (backoff : Backoff) (scope : Scope)
    (results : Nat → Except PluginFault ResponseEnvelope) (later : Session) :
    Nat → Outcome ResponseEnvelope → Prop where
  | replied {index : Nat} {reply : ResponseEnvelope} (answered : results index = .ok reply) :
      Concludes backoff scope results later (index + 1) (.done reply)
  | refused {index : Nat} {fault : PluginFault} (answered : results index = .error fault)
      (final : fault.isRetryable = false) :
      Concludes backoff scope results later (index + 1) (.failed (.plugin fault))
  | exhausted {index : Nat} {fault : PluginFault} (answered : results index = .error fault)
      (retryable : fault.isRetryable = true) (last : index + 1 = max 1 backoff.attempts) :
      Concludes backoff scope results later (index + 1)
        (.failed (.plugin (.transport ("all retry attempts failed after " ++ toString (index + 1) ++
          " attempts: " ++ fault.message))))
  /-- The wait before the next attempt would be too long, with the random part that was drawn for it. -/
  | overflowed {index drawn : Nat} {fault : PluginFault} (answered : results index = .error fault)
      (retryable : fault.isRetryable = true) (left : index + 1 < max 1 backoff.attempts)
      (long : Duration.greatest <
        backoff.base index + Backoff.randomPart (backoff.base index) { later with drawn }) :
      Concludes backoff scope results later (index + 1) .aborted
  /-- A context around the work has ended during a wait. -/
  | cutOff {index : Nat} (past : scope.HasEnded later) :
      Concludes backoff scope results later (index + 1) .interrupted

/-- The end of forwarding with what the attempts are answered. -/
def conclusion : Except (Backoff.GivenUp PluginFault) ResponseEnvelope → Outcome ResponseEnvelope
  | .ok reply => .done reply
  | .error givenUp => .failed (.plugin (finalFault givenUp))

/-- A last attempt, with a result behind which there is no other, or because of its number. -/
theorem concludes_of_final
    {backoff : Backoff} {results : Nat → Except PluginFault ResponseEnvelope} {index : Nat}
    (allowed : index + 1 ≤ max 1 backoff.attempts)
    (final : Backoff.settles (fun fault => !fault.isRetryable) (results index) = true ∨
      max 1 backoff.attempts ≤ index + 1)
    (scope : Scope) (later : Session) :
    Concludes backoff scope results later (index + 1)
      (conclusion (Backoff.verdict (fun fault => !fault.isRetryable) (index + 1) (results index))) := by
  cases answered : results index with
  | ok reply => exact .replied answered
  | error fault =>
      rw [answered] at final
      rw [Backoff.verdict]
      split
      · rename_i useless
        exact .refused answered (Bool.not_eq_true' _ ▸ useless)
      · rename_i useful
        exact .exhausted answered (by simpa using useful)
          (Nat.le_antisymm allowed (final.resolve_left useful))

/-- What is true of a request that was forwarded in so many attempts. -/
structure Forwarded (client : Client) (request : Request) (scope : Scope) (session : Session)
    (count : Nat) (outcome : Outcome ResponseEnvelope) (later : Session) : Prop where
  bounded : count ≤ max 1 client.backoff.attempts
  /-- The attempts post the same, and nothing else happens in the session. -/
  posted : ∃ now drawn, later = sessionAfter client request scope.span session count now drawn
  /-- Another attempt is only made behind a fault that another attempt may mend. -/
  earlier : ∀ index, index + 1 < count → ∃ fault,
    resultAt client request session index = .error fault ∧ fault.isRetryable = true
  concludes : Concludes client.backoff scope (resultAt client request session) later count outcome

/-- The attempts of which forwarding consists. -/
def tries (client : Client) (request : Request) :
    Work σ (Except (Backoff.GivenUp PluginFault) ResponseEnvelope) :=
  client.backoff.run (fun fault => !fault.isRetryable)
    (attempt client (client.urlFor request.route.path) (RequestEnvelope.ofRequest request))

theorem forward_of_done
    {client : Client} {request : Request} {scope : Scope} {subject : σ} {session : Session}
    {answer : Except (Backoff.GivenUp PluginFault) ResponseEnvelope} {there : σ × Session}
    (tried : tries client request scope subject session = (.done answer, there)) :
    forward client request scope subject session = (conclusion answer, there) := by
  refine (Work.bind_of_done tried _).trans ?_
  cases answer with
  | ok reply => rfl
  | error givenUp => rfl

theorem exists_forwarded
    (client : Client) (request : Request) (scope : Scope) (subject : σ) (session : Session) :
    ∃ count outcome later,
      forward client request scope subject session = (outcome, subject, later) ∧
        Forwarded client request scope session count outcome later := by
  obtain ⟨errors, here, trying, ends⟩ := Backoff.exists_ends client.backoff
    (fun fault => !fault.isRetryable)
    (attempt client (client.urlFor request.route.path) (RequestEnvelope.ofRequest request))
    scope (subject, session)
  obtain ⟨⟨now, drawn, rfl⟩, earlier⟩ := trying_spec trying
  have allowed : errors.length + 1 ≤ max 1 client.backoff.attempts := trying.length_lt
  have before : ∀ index, index + 1 < errors.length + 1 → ∃ fault,
      resultAt client request session index = .error fault ∧ fault.isRetryable = true :=
    fun index less => earlier index (Nat.lt_of_succ_lt_succ less)
  change Backoff.Ends _ _ _ _ _ _ (tries client request scope subject session) at ends
  generalize ran : tries client request scope subject session = whole at ends
  cases ends with
  | answered ended final =>
      obtain ⟨rfl, later, rfl⟩ := attempt_done ended
      exact ⟨_, _, _, forward_of_done ran, allowed, ⟨later, drawn, rfl⟩, before,
        concludes_of_final allowed final scope _⟩
  | @restless fault _ _ _ _ failed useful left paused passes =>
      obtain ⟨answered, later, rfl⟩ := attempt_done failed
      have retryable : fault.isRetryable = true := by simpa using useful
      obtain ⟨_, now, more, resting, rests⟩ := Backoff.pause_ends
        (client.backoff.base errors.length) scope subject
        (sessionAfter client request scope.span session (errors.length + 1) later drawn)
      obtain ⟨rfl, rfl⟩ := Prod.ext_iff.mp (resting.symm.trans paused)
      obtain rfl | ⟨rfl, past⟩ | ⟨rfl, long⟩ := rests
      · cases passes
      · cases passes
        exact ⟨_, _, _, Work.bind_of_interrupted ran _, allowed, ⟨now, more, rfl⟩, before,
          .cutOff past⟩
      · cases passes
        exact ⟨_, _, _, Work.bind_of_aborted ran _, allowed, ⟨now, more, rfl⟩, before,
          .overflowed answered retryable left long⟩
  | undone ended passes =>
      obtain ⟨_, later, tried, outcomes⟩ :=
        attempt_after client request scope subject session errors.length now drawn
      obtain ⟨rfl, rfl⟩ := Prod.ext_iff.mp (tried.symm.trans ended)
      obtain rfl | ⟨rfl, past⟩ := outcomes
      · cases passes
      · cases passes
        exact ⟨_, _, _, Work.bind_of_interrupted ran _, allowed, ⟨later, drawn, rfl⟩, before,
          .cutOff past⟩

/-! ## What the results are -/

/-- An attempt gets no answer: nothing can be posted, or no status line comes in time. -/
def Unanswered (client : Client) (request : Request) (delivery : Delivery) : Prop :=
  client.url? request = none ∨ delivery = .refused ∨ (∃ delay, delivery = .broken delay) ∨
    ∃ delay status more body, delivery = .answered delay status more body ∧
      client.isLate delay = true

/-- What is true of the results of attempts, by their deliveries. -/
structure Classified (client : Client) (request : Request) : Prop where
  unanswered : ∀ {delivery}, Unanswered client request delivery →
    ∃ message, resultOf client request delivery = .error (.transport message)
  answered : ∀ {delay status more body},
    ¬ Unanswered client request (.answered delay status more body) →
      resultOf client request (.answered delay status more body) =
        readReply status (client.received delay more body)
  /-- Without its body a success is malformed, and any other answer is taken to have an empty one. -/
  unreceived : ∀ {delay status more body},
    ¬ Unanswered client request (.answered delay status more body) →
    client.received delay more body = none →
      resultOf client request (.answered delay status more body) =
        .error (if status.isSuccess then .malformedReply "error decoding response body"
          else .remoteStatus status.code "")
  /-- Another attempt may mend exactly what was not answered, or answered with a status of 500 or more. -/
  retryable_iff : ∀ delivery,
    (∃ fault, resultOf client request delivery = .error fault ∧ fault.isRetryable = true) ↔
      Unanswered client request delivery ∨
        ∃ delay status more body, delivery = .answered delay status more body ∧ 500 ≤ status.code

@[simp]
theorem readReply_none (status : Status) :
    readReply status none =
      .error (if status.isSuccess then .malformedReply "error decoding response body"
        else .remoteStatus status.code "") := by
  unfold readReply
  split
  · rfl
  · rw [Option.getD_none, Bytes.decodeLossy_nil]

theorem readReply_of_server_error
    {status : Status} (server : 500 ≤ status.code) (body : Option Bytes) :
    readReply status body = .error (.remoteStatus status.code (Bytes.decodeLossy (body.getD []))) := by
  have failed : status.isSuccess = false := by
    simp only [Status.isSuccess, Bool.and_eq_false_imp, decide_eq_true_eq, decide_eq_false_iff_not]
    omega
  unfold readReply
  rw [failed]
  rfl

theorem retryable_readReply_iff (status : Status) (body : Option Bytes) :
    (∃ fault, readReply status body = .error fault ∧ fault.isRetryable = true) ↔
      500 ≤ status.code := by
  constructor
  · rintro ⟨fault, read, retryable⟩
    unfold readReply at read
    split at read
    · -- Whatever is wrong with the body of a success is final.
      cases body with
      | none =>
          cases read
          cases retryable
      | some body =>
          dsimp only at read
          cases decoded : ResponseEnvelope.decoder.fromText body with
          | ok reply =>
              rw [decoded] at read
              cases read
          | error refusal =>
              rw [decoded] at read
              cases read
              cases retryable
    · cases read
      exact of_decide_eq_true retryable
  · intro server
    exact ⟨_, readReply_of_server_error server body, decide_eq_true server⟩

theorem resultOf_of_unanswered
    {client : Client} {request : Request} {delivery : Delivery}
    (unanswered : Unanswered client request delivery) :
    ∃ message, resultOf client request delivery = .error (.transport message) := by
  rw [resultOf]
  cases known : client.url? request with
  | none =>
      dsimp only
      rw [unpostable]
      split <;> exact ⟨_, rfl⟩
  | some url =>
      refine ⟨"error sending request for url (" ++ url.text ++ ")", ?_⟩
      rcases unanswered with unknown | rfl | ⟨delay, rfl⟩ | ⟨delay, status, more, body, rfl, late⟩
      · cases known.symm.trans unknown
      · rfl
      · rfl
      · exact if_pos late

/-- A delivery that leaves an attempt answered is an answer whose status line comes in time. -/
theorem answered_of_not_unanswered
    {client : Client} {request : Request} {delivery : Delivery}
    (answered : ¬ Unanswered client request delivery) :
    ∃ delay status more body, delivery = .answered delay status more body ∧
      resultOf client request delivery = readReply status (client.received delay more body) := by
  rw [resultOf]
  cases known : client.url? request with
  | none => exact absurd (.inl known) answered
  | some url =>
      cases delivery with
      | refused => exact absurd (.inr (.inl rfl)) answered
      | broken delay => exact absurd (.inr (.inr (.inl ⟨delay, rfl⟩))) answered
      | answered delay status more body =>
          refine ⟨delay, status, more, body, rfl, if_neg fun late => answered ?_⟩
          exact .inr (.inr (.inr ⟨delay, status, more, body, rfl, late⟩))

theorem resultOf_of_answered
    {client : Client} {request : Request} {delay : Nat} {status : Status} {more : Nat}
    {body : Option Bytes}
    (answered : ¬ Unanswered client request (.answered delay status more body)) :
    resultOf client request (.answered delay status more body) =
      readReply status (client.received delay more body) := by
  obtain ⟨_, _, _, _, same, result⟩ := answered_of_not_unanswered answered
  cases same
  exact result

/-- An attempt with a reply is answered in time, and the reply is read from a body that has come. -/
theorem delivery_of_resultOf_eq_ok
    {client : Client} {request : Request} {delivery : Delivery} {reply : ResponseEnvelope}
    (replied : resultOf client request delivery = .ok reply) :
    ∃ url delay status more body, client.url? request = some url ∧
      delivery = .answered delay status more (some body) ∧ readReply status (some body) = .ok reply := by
  by_cases unanswered : Unanswered client request delivery
  · obtain ⟨message, failed⟩ := resultOf_of_unanswered unanswered
    cases replied.symm.trans failed
  · obtain ⟨delay, status, more, body, rfl, result⟩ := answered_of_not_unanswered unanswered
    rw [result, Client.received] at replied
    obtain ⟨url, known⟩ := Option.ne_none_iff_exists'.mp fun unknown => unanswered (.inl unknown)
    split at replied
    · cases (readReply_none status).symm.trans replied
    · cases body with
      | none => cases (readReply_none status).symm.trans replied
      | some body => exact ⟨url, delay, status, more, body, known, rfl, replied⟩

theorem classified (client : Client) (request : Request) : Classified client request where
  unanswered := resultOf_of_unanswered
  answered := resultOf_of_answered
  unreceived := by
    intro delay status more body answered missing
    rw [resultOf_of_answered answered, missing, readReply_none]
  retryable_iff := by
    intro delivery
    by_cases unanswered : Unanswered client request delivery
    · obtain ⟨message, result⟩ := resultOf_of_unanswered unanswered
      exact iff_of_true ⟨_, result, rfl⟩ (.inl unanswered)
    · obtain ⟨delay, status, more, body, rfl, result⟩ := answered_of_not_unanswered unanswered
      rw [result, retryable_readReply_iff]
      constructor
      · exact fun server => .inr ⟨delay, status, more, body, rfl, server⟩
      · rintro (impossible | ⟨_, _, _, _, same, server⟩)
        · exact absurd impossible unanswered
        · cases same
          exact server

/-! ## Forwarding within a context that has ended -/

/-- A client that tries three times and gives five seconds to an attempt. -/
def larder : Client where
  host := "http://larder"
  base := ""
  timeoutMs := some 5000
  backoff := { initial := 100, longest := 100, factor := .one, attempts := 3 }

/-- A request without a response. -/
def soup : Request :=
  Request.make ⟨0⟩ .post ⟨none, "", "/kitchen/soup", none⟩ [] [] []

/-- What a remote hub replies. -/
def ladle : ResponseEnvelope where
  statusCode := 201
  headers := [("x-soup", ["hot"])]
  body := [0x6F]

/-- A remote hub is busy first, and then replies. -/
def served (number : Nat) : Delivery :=
  if number = 0 then .answered 2 .serviceUnavailable 0 (some [])
  else .answered 1 .ok 0 (some (Bytes.ofString ladle.toJson.render))

/-- A client whose first wait is the greatest number of seconds that is a duration. -/
def patient : Client where
  host := "http://larder"
  base := ""
  timeoutMs := none
  backoff := RetrySettings.vast.described

end Remote

end RequestHub
