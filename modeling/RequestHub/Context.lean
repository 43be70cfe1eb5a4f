import RequestHub.Decimal.Power
import RequestHub.Failure
import RequestHub.Session

/-!
# Contexts

A context says when work has to end: when its token is cancelled, or when its deadline has come.  A
context that is derived for a request keeps token and deadline; one that is derived with a timeout has
a token of its own below the parent's, and a deadline that is never later than the parent's.  So
a context never outlives the one that it comes from.
-/

namespace RequestHub

/-- What bounds a piece of work. -/
structure Context where
  token : Token
  /-- The instant at which the context ends, in nanoseconds since the beginning of the session. -/
  deadline : Option Nat
  /-- The request for which the work is done. -/
  requestId : Option Uuid
deriving DecidableEq, Inhabited, Repr

namespace Context

/-- A context that ends only with its token. -/
def ofToken (token : Token) : Context :=
  ⟨token, none, none⟩

/-- The context for a request. -/
def forRequest (context : Context) (id : Uuid) : Context :=
  { context with requestId := some id }

/-- Instants cannot be later than this. -/
def greatestInstant : Nat := (twoTo 63 - 1) * Session.second + (Session.second - 1)

/-- The earlier one of a deadline that may be missing and an instant. -/
def earlier (deadline : Option Nat) (instant : Nat) : Nat :=
  match deadline with
  | some deadline => min deadline instant
  | none => instant

/-- A context below another that ends after a timeout at the latest, if that is an instant at all. -/
def child? (context : Context) (timeout : Nat) (session : Session) : Option (Context × Session) :=
  let instant := session.now + timeout
  if instant ≤ greatestInstant then
    let (token, session) := session.freshToken context.token
    some ({ context with token, deadline := some (earlier context.deadline instant) }, session)
  else none

/-- A context can be derived exactly while the end of its time is an instant. -/
theorem child?_eq_some_iff
    (context inner : Context) (timeout : Nat) (session later : Session) :
    context.child? timeout session = some (inner, later) ↔
      session.now + timeout ≤ greatestInstant ∧
        inner = { context with
          token := (session.freshToken context.token).1
          deadline := some (earlier context.deadline (session.now + timeout)) } ∧
        later = (session.freshToken context.token).2 := by
  by_cases instant : session.now + timeout ≤ greatestInstant
  · simp [child?, instant, eq_comm]
  · simp [child?, instant]

/-- Whether the deadline of a context has come. -/
def isOverdue (context : Context) (session : Session) : Bool :=
  context.deadline.any fun deadline => deadline ≤ session.now

/-- Whether a context has ended. -/
def hasEnded (context : Context) (session : Session) : Bool :=
  session.isCancelled context.token || context.isOverdue session

/-- The time that is left to a context with a deadline. -/
def remaining? (context : Context) (session : Session) : Option Nat :=
  context.deadline.map fun deadline => deadline - session.now

/-- Why a context has ended; its cancellation counts more than its deadline. -/
def ending (context : Context) (session : Session) : Failure :=
  if session.isCancelled context.token then .cancelled "execution context was cancelled"
  else .cancelled "deadline exceeded"

/-- The instant at which a wait within the context is cut off, if nothing else happens. -/
def cutOff? (context : Context) (session : Session) : Option Nat :=
  if session.isCancelled context.token then some session.now
  else context.deadline.map fun deadline => max session.now (Session.tick deadline)

end Context

end RequestHub
