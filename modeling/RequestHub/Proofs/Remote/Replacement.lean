import RequestHub.Proofs.Envelope.Hop
import RequestHub.Proofs.Remote.Forwarding

/-!
# A task that replaces all or nothing

The task that asks a remote hub puts the reply in the place of the response that is attached or, if there is
none, of the header fields and the body of the request.  It does so only after the whole reply has been
accepted: the main statement is that whatever else happens leaves the request as it was, and that nothing
else of the request is ever changed.
-/

namespace RequestHub

/-! ## Replies are accepted in parts -/

namespace ResponseEnvelope

/-- Header fields are those of an envelope: under every name its values, in their order. -/
structure Gives (envelope : ResponseEnvelope) (headers : Headers) : Prop where
  formed : headers.Formed
  values : ∀ name, headers.values name = envelope.headers.valuesAt name

theorem headerFields_of_legal {envelope : ResponseEnvelope} (legal : envelope.headers.Legal) :
    ∃ headers, envelope.headerFields = .ok headers ∧ envelope.Gives headers := by
  obtain ⟨headers, made, values, forms⟩ := WireHeaders.addAll_of_legal legal []
  exact ⟨headers, made, forms .nil, values⟩

theorem headerFields_of_not_legal
    {envelope : ResponseEnvelope} (illegal : ¬ envelope.headers.Legal) :
    ∃ message, envelope.headerFields = .error (.malformedReply message) :=
  WireHeaders.addAll_of_not_legal illegal []

end ResponseEnvelope

namespace Remote

/-! ## What the task does -/

/-- A reply was put in the place of a response, or of what a request carries. -/
structure Puts (reply : ResponseEnvelope) (request changed : Request) : Prop where
  /-- The status, the header fields and the body of a response are changed, and not its trailers. -/
  attached : ∀ response, request.response = some response →
    ∃ status headers, status.code = reply.statusCode ∧ reply.Gives headers ∧
      changed =
        { request with
          response := some ⟨status, headers, response.trailers, reply.body⟩ }
  /-- The header fields and the body of the request are changed, and no response is attached. -/
  alone : request.response = none →
    ∃ headers, reply.Gives headers ∧
      changed = { request with headers, body := reply.body, response := none }

theorem puts_applyReply
    {reply : ResponseEnvelope} {status : Status} {headers : Headers}
    (code : status.code = reply.statusCode) (gives : reply.Gives headers) (request : Request) :
    Puts reply request (applyReply status headers reply.body request) where
  attached := by
    intro response attached
    refine ⟨status, headers, code, gives, ?_⟩
    rw [applyReply, attached]
    rfl
  alone := by
    intro alone
    refine ⟨headers, gives, ?_⟩
    rw [applyReply, alone]

/-- The part of the task behind the reply. -/
def putReply (reply : ResponseEnvelope) : Work Request Unit := do
  let status ← ofReply reply.status
  let headers ← ofReply reply.headerFields
  Work.modify (applyReply status headers reply.body)

theorem task_eq
    (client : Client) (context : Context) (scope : Scope) (request : Request) (session : Session) :
    (task client).run context scope request session =
      (Work.within context (forward client request) >>= putReply) scope request session := rfl

/-- A reply is refused before anything is changed, or it is put whole. -/
theorem putReply_ends (reply : ResponseEnvelope) (scope : Scope) (request : Request) (session : Session) :
    ((¬ (100 ≤ reply.statusCode ∧ reply.statusCode ≤ 999) ∨ ¬ reply.headers.Legal) ∧
      ∃ message, putReply reply scope request session =
        (.failed (.plugin (.malformedReply message)), request, session)) ∨
    ((100 ≤ reply.statusCode ∧ reply.statusCode ≤ 999) ∧ reply.headers.Legal) ∧
      ∃ changed, putReply reply scope request session = (.done (), changed, session) ∧
        Puts reply request changed := by
  unfold putReply
  by_cases code : 100 ≤ reply.statusCode ∧ reply.statusCode ≤ 999
  · rw [ResponseEnvelope.status_of_code code]
    by_cases legal : reply.headers.Legal
    · obtain ⟨headers, made, gives⟩ := ResponseEnvelope.headerFields_of_legal legal
      rw [made]
      exact .inr ⟨⟨code, legal⟩, _, rfl, puts_applyReply rfl gives request⟩
    · obtain ⟨message, refused⟩ := ResponseEnvelope.headerFields_of_not_legal legal
      rw [refused]
      exact .inl ⟨.inr legal, message, rfl⟩
  · rw [ResponseEnvelope.status_of_no_code code]
    exact .inl ⟨.inl code, _, rfl⟩

/-- How the task ends, and what it leaves of the request. -/
inductive Replaces (client : Client) (context : Context) (scope : Scope) (request : Request)
    (session : Session) : Outcome Unit × Request × Session → Prop where
  /-- There is no reply, and the request stays as it was. -/
  | unanswered {outcome : Outcome ResponseEnvelope} {whole : Outcome Unit} {later : Session}
      (forwarded : Work.within context (forward client request) scope request session =
        (outcome, request, later))
      (passes : outcome.Passes whole) :
      Replaces client context scope request session (whole, request, later)
  /-- No response can be as the reply says, and the request stays as it was. -/
  | malformed {reply : ResponseEnvelope} {message : String} {later : Session}
      (forwarded : Work.within context (forward client request) scope request session =
        (.done reply, request, later))
      (illegal : ¬ (100 ≤ reply.statusCode ∧ reply.statusCode ≤ 999) ∨ ¬ reply.headers.Legal) :
      Replaces client context scope request session
        (.failed (.plugin (.malformedReply message)), request, later)
  | replaced {reply : ResponseEnvelope} {changed : Request} {later : Session}
      (forwarded : Work.within context (forward client request) scope request session =
        (.done reply, request, later))
      (legal : (100 ≤ reply.statusCode ∧ reply.statusCode ≤ 999) ∧ reply.headers.Legal)
      (puts : Puts reply request changed) :
      Replaces client context scope request session (.done (), changed, later)

/-- Forwarding changes nothing of the request, within a context as well. -/
theorem within_forward_keeps
    (client : Client) (context : Context) (scope : Scope) (request : Request) (session : Session) :
    ∃ outcome later,
      Work.within context (forward client request) scope request session = (outcome, request, later) := by
  obtain ⟨_, outcome, later, forwarded, -⟩ :=
    exists_forwarded client request { scope with bounds := context :: scope.bounds } request session
  rw [Work.within, forwarded]
  split
  · exact ⟨_, _, rfl⟩
  · cases outcome with
    | interrupted =>
        dsimp only
        split <;> exact ⟨_, _, rfl⟩
    | done | failed | aborted => exact ⟨_, _, rfl⟩

theorem replaces
    (client : Client) (context : Context) (scope : Scope) (request : Request) (session : Session) :
    Replaces client context scope request session ((task client).run context scope request session) := by
  obtain ⟨outcome, later, forwarded⟩ := within_forward_keeps client context scope request session
  rw [task_eq]
  obtain ⟨reply, rfl⟩ | ⟨whole, passes⟩ := outcome.done_or_passes Unit
  · rw [Work.bind_of_done forwarded]
    obtain ⟨illegal, message, refused⟩ | ⟨legal, changed, put, puts⟩ :=
      putReply_ends reply scope request later
    · rw [refused]
      exact .malformed forwarded illegal
    · rw [put]
      exact .replaced forwarded legal puts
  · rw [Work.bind_of_passes forwarded passes]
    exact .unanswered forwarded passes

/--
The task replaces all or nothing.  If it is not done, the request with the response that is attached is as
it was before; and if it is done, a reply was put in the place of the response or, without one, in the place
of the header fields and the body.  It is done exactly if there is a reply whose status code has three
digits and whose names and values header fields can have.
-/
theorem task_replaces
    (client : Client) (context : Context) (scope : Scope) (request : Request) (session : Session) :
    ∃ outcome changed later,
      (task client).run context scope request session = (outcome, changed, later) ∧
        Replaces client context scope request session (outcome, changed, later) ∧
        ((outcome ≠ .done () ∧ changed = request) ∨
          outcome = .done () ∧ ∃ reply, Puts reply request changed) := by
  have ends := replaces client context scope request session
  generalize ran : (task client).run context scope request session = ended at ends
  obtain ⟨outcome, changed, later⟩ := ended
  refine ⟨outcome, changed, later, rfl, ends, ?_⟩
  cases ends with
  | unanswered forwarded passes =>
      refine .inl ⟨?_, rfl⟩
      rintro rfl
      cases passes
  | malformed => exact .inl ⟨nofun, rfl⟩
  | replaced forwarded legal puts => exact .inr ⟨rfl, _, puts⟩

/-- A request with a response that has a trailer. -/
def tureen : Request :=
  soup.attach ⟨.ok, [("x-old", [[0x61]])], [("x-end", [[0x63]])], [0x62]⟩

/-- A session in which nothing is cancelled. -/
def dinner : Session :=
  .start 0 served (fun _ => 7) default

/-- The second attempt is answered, and the reply is put in the place of all but the trailer. -/
theorem task_replaces_tureen :
    ∃ outcome changed later,
      (task larder).run (.ofToken []) default tureen dinner = (outcome, changed, later) ∧
        Replaces larder (.ofToken []) default tureen dinner (outcome, changed, later) ∧
        outcome = .done () ∧
        changed = tureen.attach
          ⟨.created, [("x-soup", [[0x68, 0x6F, 0x74]])], [("x-end", [[0x63]])], [0x6F]⟩ := by
  have left : ((task larder).run (.ofToken []) default tureen dinner).2.1 = tureen.attach
      ⟨.created, [("x-soup", [[0x68, 0x6F, 0x74]])], [("x-end", [[0x63]])], [0x6F]⟩ := by
    decide +kernel
  obtain ⟨outcome, changed, later, ran, replaces, ⟨-, kept⟩ | ⟨done, -⟩⟩ :=
    task_replaces larder (.ofToken []) default tureen dinner
  · rw [ran] at left
    exact absurd (left.symm.trans kept) (by decide)
  · rw [ran] at left
    exact ⟨outcome, changed, later, ran, replaces, done, left⟩

end Remote

end RequestHub
