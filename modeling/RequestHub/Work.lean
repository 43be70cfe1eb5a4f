import RequestHub.Context

/-!
# Work

A piece of work has a subject that it may change, such as a request, and happens in a session.  It is
done with a value, or it fails, or it is interrupted because a context around it has ended while it was
waiting, or it is aborted because an instant or a duration would be too great.  Whatever its outcome,
the changes that it made to its subject before are kept.

Only waiting takes time.  Work that is ready at the very moment at which its context ends is done:
`Work.wait` is interrupted only by a context that ends strictly before the wait is over, and
`Work.within` refuses a context that has ended before the work begins.
-/

namespace RequestHub

/-- How a piece of work ends. -/
inductive Outcome (α : Type) where
  | done (value : α)
  | failed (failure : Failure)
  | interrupted
  | aborted
deriving Inhabited, Repr

/-- What came of a piece of work, with a value changed by a function. -/
def Outcome.map {α β : Type} (change : α → β) : Outcome α → Outcome β
  | .done value => .done (change value)
  | .failed failure => .failed failure
  | .interrupted => .interrupted
  | .aborted => .aborted

/-- What is around a piece of work. -/
structure Scope where
  /-- The contexts within which it happens, the innermost first. -/
  bounds : List Context
  /-- The span to which it belongs. -/
  span : Option Span
deriving Inhabited, Repr

/-- A piece of work on a subject. -/
def Work (σ α : Type) : Type :=
  Scope → σ → Session → Outcome α × σ × Session

namespace Work

variable {σ α β : Type}

/-- Work that is done at once. -/
protected def pure (value : α) : Work σ α := fun _ subject session =>
  (.done value, subject, session)

/-- Work after work; it begins only if the first is done. -/
protected def bind (work : Work σ α) (next : α → Work σ β) : Work σ β :=
  fun scope subject session =>
    match work scope subject session with
    | (.done value, subject, session) => next value scope subject session
    | (.failed failure, subject, session) => (.failed failure, subject, session)
    | (.interrupted, subject, session) => (.interrupted, subject, session)
    | (.aborted, subject, session) => (.aborted, subject, session)

instance : Monad (Work σ) where
  pure := Work.pure
  bind := Work.bind

/-- The subject. -/
def subject : Work σ σ := fun _ subject session =>
  (.done subject, subject, session)

/-- Changes the subject. -/
def modify (change : σ → σ) : Work σ Unit := fun _ subject session =>
  (.done (), change subject, session)

/-- The session. -/
def session : Work σ Session := fun _ subject session =>
  (.done session, subject, session)

/-- The span to which the work belongs. -/
def span : Work σ (Option Span) := fun scope subject session =>
  (.done scope.span, subject, session)

/-- Changes the session. -/
def update (change : Session → Session) : Work σ Unit := fun _ subject session =>
  (.done (), subject, change session)

/-- Takes something new from the session. -/
def take (make : Session → α × Session) : Work σ α := fun _ subject session =>
  let (value, session) := make session
  (.done value, subject, session)

/-- Work that fails. -/
def fail (failure : Failure) : Work σ α := fun _ subject session =>
  (.failed failure, subject, session)

/-- Work that is aborted. -/
def abort : Work σ α := fun _ subject session =>
  (.aborted, subject, session)

/-- Work whose result is known, be it a value or a failure. -/
def ofExcept : Except Failure α → Work σ α
  | .ok value => pure value
  | .error failure => fail failure

/-- Work whose failure is its value. -/
def attempt (work : Work σ α) : Work σ (Except Failure α) := fun scope subject session =>
  match work scope subject session with
  | (.done value, subject, session) => (.done (.ok value), subject, session)
  | (.failed failure, subject, session) => (.done (.error failure), subject, session)
  | (.interrupted, subject, session) => (.interrupted, subject, session)
  | (.aborted, subject, session) => (.aborted, subject, session)

/-- Work that belongs to a span. -/
def traced (span : Span) (work : Work σ α) : Work σ α := fun scope subject session =>
  work { scope with span := some span } subject session

/-- The earliest instant at which one of some contexts cuts a wait off. -/
def cutOff? (bounds : List Context) (session : Session) : Option Nat :=
  (bounds.filterMap fun context => context.cutOff? session).min?

/-- Waits until an instant, unless a context around the work ends strictly before it. -/
def waitUntil (instant : Nat) : Work σ Unit := fun scope subject session =>
  if instant ≤ session.now then (.done (), subject, session)
  else
    match (cutOff? scope.bounds session).filter (· < instant) with
    | some cut => (.interrupted, subject, { session with now := cut })
    | none => (.done (), subject, { session with now := instant })

/-- Waits for a duration, which lasts to the end of a millisecond. -/
def wait (duration : Nat) : Work σ Unit := fun scope subject session =>
  waitUntil (Session.tick (session.now + duration)) scope subject session

/-- Work within a context. -/
def within (context : Context) (work : Work σ α) : Work σ α := fun scope subject session =>
  if context.hasEnded session then (.failed (context.ending session), subject, session)
  else
    match work { scope with bounds := context :: scope.bounds } subject session with
    | (.interrupted, subject, session) =>
        if context.hasEnded session then (.failed (context.ending session), subject, session)
        else (.interrupted, subject, session)
    | ended => ended

/-- A context below another that ends after a timeout at the latest. -/
def child (context : Context) (timeout : Nat) : Work σ Context := fun _ subject session =>
  match context.child? timeout session with
  | some (context, session) => (.done context, subject, session)
  | none => (.aborted, subject, session)

/-- Cancels a context. -/
def cancel (context : Context) : Work σ Unit :=
  update fun session => session.cancel context.token

/-- Waits until a context has ended, but not longer than a duration; says whether it has ended. -/
def await (context : Context) (limit : Nat) : Work σ Bool := fun scope subject session =>
  let last := Session.tick (session.now + limit)
  match context.cutOff? session with
  | some cut =>
      let instant := min cut last
      match waitUntil instant scope subject session with
      | (.done _, subject, session) => (.done (cut ≤ last), subject, session)
      | (_, subject, session) => (.interrupted, subject, session)
  | none =>
      match waitUntil last scope subject session with
      | (.done _, subject, session) => (.done false, subject, session)
      | (_, subject, session) => (.interrupted, subject, session)

/-- Writes an entry to the log. -/
def log (entry : LogEntry) : Work σ Unit :=
  update fun session => { session with log := session.log ++ [entry] }

/-- Runs work that nothing is around. -/
def run (work : Work σ α) (subject : σ) (session : Session) : Outcome α × σ × Session :=
  work ⟨[], none⟩ subject session

instance : LawfulMonad (Work σ) := LawfulMonad.mk' (Work σ)
  (by
    intro α work
    funext scope subject session
    change Work.bind work (fun value => Work.pure value) scope subject session = _
    rw [Work.bind]
    rcases work scope subject session with ⟨_ | _ | _ | _, changed, later⟩ <;> rfl)
  (by
    intro α β value next
    rfl)
  (by
    intro α β γ work next last
    funext scope subject session
    change Work.bind (Work.bind work next) last scope subject session =
      Work.bind work (fun value => Work.bind (next value) last) scope subject session
    simp only [Work.bind]
    rcases work scope subject session with ⟨_ | _ | _ | _, changed, later⟩ <;> rfl)

/-! ## What follows from the end of a part -/

section

variable {work : Work σ α} {scope : Scope} {subject changed : σ} {session later : Session}
  {value : α} {failure : Failure} {context : Context}

theorem bind_of_done
    (ended : work scope subject session = (.done value, changed, later))
    (next : α → Work σ β) :
    (work >>= next) scope subject session = next value scope changed later := by
  change Work.bind work next scope subject session = _
  rw [Work.bind, ended]

theorem bind_of_failed
    (ended : work scope subject session = (.failed failure, changed, later))
    (next : α → Work σ β) :
    (work >>= next) scope subject session = (.failed failure, changed, later) := by
  change Work.bind work next scope subject session = _
  rw [Work.bind, ended]

theorem bind_of_interrupted
    (ended : work scope subject session = (.interrupted, changed, later))
    (next : α → Work σ β) :
    (work >>= next) scope subject session = (.interrupted, changed, later) := by
  change Work.bind work next scope subject session = _
  rw [Work.bind, ended]

theorem bind_of_aborted
    (ended : work scope subject session = (.aborted, changed, later))
    (next : α → Work σ β) :
    (work >>= next) scope subject session = (.aborted, changed, later) := by
  change Work.bind work next scope subject session = _
  rw [Work.bind, ended]

/-- Work of which a part is not done ends as the part does. -/
theorem bind_of_undone
    {part : Work σ Unit} {next : Unit → Work σ Unit} {outcome : Outcome Unit}
    (ended : part scope subject session = (outcome, changed, later))
    (undone : outcome ≠ .done ()) :
    (part >>= next) scope subject session = (outcome, changed, later) := by
  change Work.bind part next scope subject session = _
  rw [Work.bind, ended]
  cases outcome with
  | done => exact absurd rfl undone
  | failed | interrupted | aborted => rfl

theorem attempt_of_done
    (ended : work scope subject session = (.done value, changed, later)) :
    attempt work scope subject session = (.done (.ok value), changed, later) := by
  rw [attempt, ended]

theorem attempt_of_failed
    (ended : work scope subject session = (.failed failure, changed, later)) :
    attempt work scope subject session = (.done (.error failure), changed, later) := by
  rw [attempt, ended]

theorem attempt_of_aborted
    (ended : work scope subject session = (.aborted, changed, later)) :
    attempt work scope subject session = (.aborted, changed, later) := by
  rw [attempt, ended]

/-- Work that is done within a context that has not ended before is done whatever the context does. -/
theorem within_of_done
    (lasts : context.hasEnded session = false)
    (ended : work { scope with bounds := context :: scope.bounds } subject session =
      (.done value, changed, later)) :
    within context work scope subject session = (.done value, changed, later) := by
  rw [within, lasts, ended]
  rfl

theorem within_of_failed
    (lasts : context.hasEnded session = false)
    (ended : work { scope with bounds := context :: scope.bounds } subject session =
      (.failed failure, changed, later)) :
    within context work scope subject session = (.failed failure, changed, later) := by
  rw [within, lasts, ended]
  rfl

end

end Work

end RequestHub
