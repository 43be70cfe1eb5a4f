import RequestHub.Plugin.PassThrough
import RequestHub.Proofs.Dispatch.Answered
import RequestHub.Proofs.Remote.Forwarding

/-!
# Targets that relay

Two targets answer with what has arrived: the one that passes through what it is sent, and the one that
asks a remote hub.  The latter may try several times, and wait in between.  When it answers, the response
is that of a reply, and the reply is read from the delivery of the last one of its own postings.
-/

namespace RequestHub

/-- The targets that answer with something that has arrived. -/
inductive Relay where
  | passThrough
  | remote (client : Remote.Client)

namespace Relay

/-- The target itself. -/
def target : Relay → Target
  | .passThrough => PassThrough.target
  | .remote client => Remote.target client

end Relay

namespace Remote

/-- A request was posted at least once, always in the same posting, and the last one was replied to. -/
inductive Replied (client : Client) (asked : Request) (asking answering : Session) :
    ResponseEnvelope → Prop where
  | last {url : Url} {span : Option Span} {others delay more : Nat} {status : Status} {body : Bytes}
      {reply : ResponseEnvelope}
      (known : client.url? asked = some url)
      (posted : answering.posted =
        asking.posted ++ List.replicate (others + 1) (posting url asked span))
      (delivered : asking.delivery (asking.posted.length + others) =
        .answered delay status more (some body))
      (read : readReply status (some body) = .ok reply) :
      Replied client asked asking answering reply

end Remote

/-- What a target answers with: what the request carries, or what a remote hub has replied to it. -/
def Relay.Gives : Relay → Request → Session → Session → Response → Prop
  | .passThrough, asked, _, _, given => given = PassThrough.reflect asked
  | .remote client, asked, asking, answering, given =>
      ∃ reply, Remote.Replied client asked asking answering reply ∧ reply.toResponse = .ok given

/-! ## Replies -/

namespace Remote

variable {σ : Type} {client : Client} {scope : Scope} {session later : Session}

theorem ofReply_eq_done
    {α : Type} {part : Except PluginFault α} {subject changed : σ} {value : α}
    (ended : ofReply part scope subject session = (.done value, changed, later)) :
    part = .ok value ∧ later = session := by
  cases part with
  | error fault => cases ended
  | ok made =>
      cases ended
      exact ⟨rfl, rfl⟩

/-- What is forwarded until it is answered is answered by the delivery of its last posting. -/
theorem forward_eq_done
    {request : Request} {subject changed : σ} {reply : ResponseEnvelope}
    (ended : forward client request scope subject session = (.done reply, changed, later)) :
    Replied client request session later reply := by
  obtain ⟨count, outcome, last, forwarded, course⟩ :=
    exists_forwarded client request scope subject session
  have same := forwarded.symm.trans ended
  injection same with sameOutcome same
  injection same with _ sameSession
  subst sameOutcome sameSession
  obtain ⟨now, drawn, after⟩ := course.posted
  cases course.concludes with
  | @replied index _ answered =>
      obtain ⟨url, delay, status, more, body, known, came, read⟩ := delivery_of_resultOf_eq_ok answered
      have posted : last.posted =
          session.posted ++ List.replicate (index + 1) (posting url request scope.span) := by
        rw [after, sessionAfter, postings_of_some known]
      exact .last known posted came read

end Remote

/-- A target that answers gives what it has been sent, or what it has been replied. -/
theorem Relay.gives
    {relay : Relay} {context : Context} {scope : Scope} {asked answered : Request}
    {asking answering : Session} {given : Response}
    (ended : relay.target.run context scope asked asking =
      (.done (some given), answered, answering)) :
    relay.Gives asked asking answering given := by
  cases relay with
  | passThrough =>
      cases ended
      rfl
  | remote client =>
      rcases Work.bind_eq_done ended with ⟨request, middle, between, looked, onward⟩
      cases looked
      rcases Work.bind_eq_done onward with ⟨reply, middle, between, forwarded, read⟩
      rcases Work.bind_eq_done read with ⟨made, middle', between', converted, concluded⟩
      have replied := Remote.forward_eq_done (Work.within_eq_done forwarded)
      obtain ⟨made_of, rfl⟩ := Remote.ofReply_eq_done converted
      cases concluded
      exact ⟨reply, replied, made_of⟩

end RequestHub
