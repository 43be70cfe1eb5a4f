import RequestHub.Service

/-!
# Routines of plugins

A `Routine` is what a plugin does as far as time is concerned: it edits the request, leaves notes in the
session, sleeps, sleeps within its context, and ends with a value or a failure.  It may go on according to
the request and to the identifier in its context, but it does not look at the clock and does not cancel
anything.  Routines follow one another as pieces of work do.

`Routine.edits` lists the edits of a run that nothing cuts off, with their instants.
-/

namespace RequestHub

/-- A change of a session that takes no time and cancels nothing. -/
structure Note where
  change : Session → Session
  now_eq : ∀ session, (change session).now = session.now
  cancelled_eq : ∀ session, (change session).cancelled = session.cancelled

attribute [simp] Note.now_eq Note.cancelled_eq

@[simp]
theorem Note.isCancelled_eq
    (note : Note)
    (session : Session)
    (token : Token) :
    (note.change session).isCancelled token = session.isCancelled token := by
  rw [Session.isCancelled, Session.isCancelled, note.cancelled_eq]

/-- What a plugin does to a request in the course of time. -/
inductive Routine (α : Type) where
  | finish (result : Except Failure α)
  /-- Goes on according to the identifier in the context and the request. -/
  | look (next : Option Uuid → Request → Routine α)
  | edit (change : Request → Request) (next : Routine α)
  | note (remark : Note) (next : Routine α)
  | sleep (duration : Nat) (next : Routine α)
  /-- Sleeps within the context. -/
  | sleepWithin (duration : Nat) (next : Routine α)

namespace Routine

variable {α β : Type}

/-- The work that a routine is. -/
def run : Routine α → Context → Work Request α
  | .finish result, _ => Work.ofExcept result
  | .look next, context => do
      let request ← Work.request
      (next context.requestId request).run context
  | .edit change next, context => do
      Work.modify change
      next.run context
  | .note remark next, context => do
      Work.update remark.change
      next.run context
  | .sleep duration next, context => do
      Work.wait duration
      next.run context
  | .sleepWithin duration next, context => do
      Work.within context (Work.wait duration)
      next.run context

/-- Routine after routine. -/
def bind : Routine α → (α → Routine β) → Routine β
  | .finish (.ok value), after => after value
  | .finish (.error failure), _ => .finish (.error failure)
  | .look next, after => .look fun id request => (next id request).bind after
  | .edit change next, after => .edit change (next.bind after)
  | .note remark next, after => .note remark (next.bind after)
  | .sleep duration next, after => .sleep duration (next.bind after)
  | .sleepWithin duration next, after => .sleepWithin duration (next.bind after)

/-- Routines one after another. -/
def inTurn : List (Routine Unit) → Routine Unit
  | [] => .finish (.ok ())
  | routine :: routines => routine.bind fun _ => inTurn routines

/-- The edits of a routine that nothing cuts off: the instant of each, and the request after it. -/
def edits (id : Option Uuid) : Nat → Routine α → Request → List (Nat × Request)
  | _, .finish _, _ => []
  | now, .look next, request => edits id now (next id request) request
  | now, .edit change next, request => (now, change request) :: edits id now next (change request)
  | now, .note _ next, request => edits id now next request
  | now, .sleep duration next, request => edits id (Session.tick (now + duration)) next request
  | now, .sleepWithin duration next, request =>
      edits id (Session.tick (now + duration)) next request

/-- The request after some edits. -/
def latest : Request → List (Nat × Request) → Request
  | request, [] => request
  | _, (_, changed) :: edits => latest changed edits

end Routine

/-! ## Ticks of the clock -/

namespace Session

theorem le_tick (instant : Nat) : instant ≤ tick instant := by
  simp only [tick, milli]
  omega

/-- Between an instant and its tick there is no other tick. -/
theorem tick_le_tick
    {instant other : Nat}
    (before : instant ≤ tick other) :
    tick instant ≤ tick other := by
  simp only [tick, milli] at before ⊢
  omega

theorem le_tick_add (now duration : Nat) : now ≤ tick (now + duration) :=
  Nat.le_trans (Nat.le_add_right now duration) (le_tick _)

end Session

namespace Routine

variable {α : Type}

/-- No edit is made before the routine begins. -/
theorem le_of_mem_edits
    (id : Option Uuid)
    (routine : Routine α)
    {request : Request}
    {now : Nat}
    {edit : Nat × Request}
    (member : edit ∈ edits id now routine request) :
    now ≤ edit.1 := by
  induction routine generalizing request now with
  | finish result => cases member
  | look next ih =>
      rw [edits] at member
      exact ih _ _ member
  | edit change next ih =>
      rw [edits] at member
      rcases List.mem_cons.mp member with rfl | later
      · exact Nat.le_refl now
      · exact ih later
  | note remark next ih =>
      rw [edits] at member
      exact ih member
  | sleep duration next ih | sleepWithin duration next ih =>
      rw [edits] at member
      exact Nat.le_trans (Session.le_tick_add now duration) (ih member)

end Routine

end RequestHub
