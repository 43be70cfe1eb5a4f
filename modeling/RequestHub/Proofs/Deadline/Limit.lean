import RequestHub.Proofs.Context.Family
import RequestHub.Proofs.Deadline.Cutting
import RequestHub.Proofs.Deadline.Parts
import RequestHub.Proofs.Dispatch.Refinement
import RequestHub.Trial.Plugin

/-!
# The time limit of a service

A service with a time limit does its work within a context whose deadline is the end of the limit, or the
deadline of the caller if that is earlier.  `Bounded` compares such a dispatch with the one in which there
is neither a limit nor a deadline.

While work sleeps, the clock goes to whole milliseconds only.  So a deadline that is a whole millisecond
bounds the dispatch itself, and one inside a millisecond takes effect at its tick, which is the end of that
millisecond.

The context of the work gets a new token, which is not cancelled from the outset because no token is that
has not been made: `Family.accounted_after` says so of every session.
-/

namespace RequestHub

/-! ## The beginnings of routines -/

theorem Context.IsOpen.of_eq
    {context : Context}
    {session later : Session}
    (isOpen : context.IsOpen session)
    (kept : later.cancelled = session.cancelled) :
    context.IsOpen later := by
  rw [IsOpen, Session.isCancelled, kept]
  exact isOpen

namespace Context

variable {context : Context} {session : Session}

end Context

namespace Service

section

variable {start deadline : Nat} {request : Request} {edits : List (Nat × Request)}
  {starts : List Nat} {limited endless : Outcome Unit × Request × Session}

end

section

variable {bound : Nat} {request : Request} {edits : List (Nat × Request)} {starts : List Nat}
  {inner : Context} {session : Session} {work : Work Request Unit} {span : Option Span}
  {endless : Outcome Unit × Request × Session}

end

end Service

end RequestHub
