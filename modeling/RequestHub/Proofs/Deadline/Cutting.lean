import RequestHub.Proofs.Deadline.Routine
import RequestHub.Proofs.Dispatch.Refinement

/-!
# Routines within a deadline

A routine is run twice at one time: within a context that has a deadline, and within one that has none.
Up to the deadline the two runs go together.  Either they end together, or the deadline cuts the first
one off at the tick of the deadline, where the other one goes on: `Meets` says so, and which of the edits
are made in the run that is cut off.

Work that is ready at the tick of the deadline is done; only what would be ready later is cut off.  Work
within a context is refused at the tick already.
-/

namespace RequestHub

/-- The failure of work whose deadline is over. -/
def Failure.overdue : Failure := .cancelled "deadline exceeded"

/-! ## Waiting -/

namespace Work

variable {σ : Type} {scope : Scope} {session : Session}

/-- A wait that ends at the tick of the cut-off is done, and a longer one is interrupted. -/
theorem wait_eq_of_cutOff
    {last : Nat}
    (cut : cutOff? scope.bounds session = some last)
    (ahead : session.now ≤ last)
    (duration : Nat)
    (subject : σ) :
    wait duration scope subject session =
      if Session.tick (session.now + duration) ≤ last then
        (.done (), subject, { session with now := Session.tick (session.now + duration) })
      else (.interrupted, subject, { session with now := last }) := by
  have onward := Session.le_tick_add session.now duration
  rw [wait, waitUntil, cut]
  generalize Session.tick (session.now + duration) = instant at onward
  by_cases ready : instant ≤ session.now
  · obtain rfl := Nat.le_antisymm ready onward
    rw [if_pos ready, if_pos ahead]
  · rw [if_neg ready, Option.filter_some]
    by_cases early : last < instant
    · rw [if_pos (decide_eq_true early), if_neg (Nat.not_le_of_lt early)]
    · rw [if_neg (by simpa using early), if_pos (Nat.le_of_not_lt early)]

theorem wait_eq_of_endless
    (endless : cutOff? scope.bounds session = none)
    (duration : Nat)
    (subject : σ) :
    wait duration scope subject session =
      (.done (), subject, { session with now := Session.tick (session.now + duration) }) := by
  have onward := Session.le_tick_add session.now duration
  rw [wait, waitUntil, endless]
  generalize Session.tick (session.now + duration) = instant at onward
  by_cases ready : instant ≤ session.now
  · obtain rfl := Nat.le_antisymm ready onward
    rw [if_pos ready]
  · rw [if_neg ready]
    rfl

end Work

namespace Context

/-- The context is open: its token is not cancelled. -/
def IsOpen (context : Context) (session : Session) : Prop :=
  session.isCancelled context.token = false

variable {context : Context} {session : Session} {bound : Nat}

/-- Time alone does not close a context. -/
theorem IsOpen.moved
    (isOpen : context.IsOpen session)
    (now : Nat) :
    context.IsOpen { session with now } :=
  isOpen

theorem IsOpen.hasEnded_eq
    (isOpen : context.IsOpen session)
    (deadline : context.deadline = some bound) :
    context.hasEnded session = decide (bound ≤ session.now) := by
  have lasting : session.isCancelled context.token = false := isOpen
  rw [hasEnded, lasting, isOverdue, deadline]
  rfl

theorem IsOpen.hasEnded_endless
    (isOpen : context.IsOpen session)
    (endless : context.deadline = none) :
    context.hasEnded session = false := by
  have lasting : session.isCancelled context.token = false := isOpen
  rw [hasEnded, lasting, isOverdue, endless]
  rfl

theorem IsOpen.ending_eq (isOpen : context.IsOpen session) :
    context.ending session = .overdue := by
  have lasting : session.isCancelled context.token = false := isOpen
  rw [ending, lasting]
  rfl

theorem IsOpen.cutOff?_eq
    (isOpen : context.IsOpen session)
    (deadline : context.deadline = some bound)
    (ahead : session.now ≤ Session.tick bound) :
    context.cutOff? session = some (Session.tick bound) := by
  have lasting : session.isCancelled context.token = false := isOpen
  rw [cutOff?, lasting, deadline]
  exact congrArg some (Nat.max_eq_right ahead)

theorem IsOpen.cutOff?_endless
    (isOpen : context.IsOpen session)
    (endless : context.deadline = none) :
    context.cutOff? session = none := by
  have lasting : session.isCancelled context.token = false := isOpen
  rw [cutOff?, lasting, endless]
  rfl

end Context

namespace Work

/-- Work that is interrupted within a context fails if the deadline of the context is over. -/
theorem within_of_interrupted
    {σ α : Type}
    {work : Work σ α}
    {context : Context}
    {scope : Scope}
    {subject changed : σ}
    {session later : Session}
    {bound : Nat}
    (lasts : context.hasEnded session = false)
    (ended : work { scope with bounds := context :: scope.bounds } subject session =
      (.interrupted, changed, later))
    (isOpen : context.IsOpen later)
    (deadline : context.deadline = some bound)
    (passed : bound ≤ later.now) :
    within context work scope subject session = (.failed .overdue, changed, later) := by
  have has_ended : context.hasEnded later = true := by
    rw [isOpen.hasEnded_eq deadline]
    exact decide_eq_true passed
  rw [within, lasts, ended]
  simp only [Bool.false_eq_true, if_false, has_ended, if_true, isOpen.ending_eq]

theorem cutOff?_of_same
    {bounds : List Context}
    {session : Session}
    {last : Nat}
    (nonempty : bounds ≠ [])
    (same : ∀ context ∈ bounds, context.cutOff? session = some last) :
    cutOff? bounds session = some last := by
  obtain ⟨first, others, rfl⟩ := List.exists_cons_of_ne_nil nonempty
  rw [cutOff?, List.min?_eq_some_iff]
  constructor
  · exact List.mem_filterMap.mpr ⟨first, List.mem_cons_self, same first List.mem_cons_self⟩
  · intro instant member
    obtain ⟨context, among, cut⟩ := List.mem_filterMap.mp member
    rw [same context among] at cut
    exact Nat.le_of_eq (Option.some.inj cut)

theorem cutOff?_of_none
    {bounds : List Context}
    {session : Session}
    (endless : ∀ context ∈ bounds, context.cutOff? session = none) :
    cutOff? bounds session = none := by
  rw [cutOff?, List.filterMap_eq_nil_iff.mpr endless]
  rfl

end Work

namespace Routine

variable {α : Type} {bound : Nat} {inner free : Context} {session other : Session}

/-! ## Without a deadline -/

theorem wait_free
    (isOpen : free.IsOpen session)
    (endless : free.deadline = none)
    (duration : Nat)
    (bounds : List Context)
    (only : ∀ context ∈ bounds, context = free)
    (span : Option Span)
    (request : Request) :
    Work.wait duration ⟨bounds, span⟩ request session =
      (.done (), request, { session with now := Session.tick (session.now + duration) }) := by
  apply Work.wait_eq_of_endless
  apply Work.cutOff?_of_none
  intro context member
  rw [only context member]
  exact isOpen.cutOff?_endless endless

theorem within_free
    (isOpen : free.IsOpen session)
    (endless : free.deadline = none)
    (duration : Nat)
    (span : Option Span)
    (request : Request) :
    Work.within free (Work.wait duration) ⟨[free], span⟩ request session =
      (.done (), request, { session with now := Session.tick (session.now + duration) }) := by
  apply Work.within_of_done (isOpen.hasEnded_endless endless)
  exact wait_free isOpen endless duration [free, free] (by simp) span request

/-- A run that nothing cuts off ends with a value or a failure, after all edits. -/
theorem run_free
    (routine : Routine α)
    (span : Option Span)
    (request : Request)
    (endless : free.deadline = none)
    (isOpen : free.IsOpen session) :
    ∃ result later,
      routine.run free ⟨[free], span⟩ request session =
          (.ofResult result, latest request (edits free.requestId session.now routine request), later) ∧
        session.now ≤ later.now := by
  induction routine generalizing request session with
  | finish result =>
      refine ⟨result, session, ?_, Nat.le_refl _⟩
      cases result with
      | ok value => rfl
      | error failure => rfl
  | look next ih => exact ih free.requestId request request isOpen
  | edit change next ih => exact ih (change request) isOpen
  | note remark next ih =>
      have opened : free.IsOpen (remark.change session) :=
        (remark.isCancelled_eq session free.token).trans isOpen
      obtain ⟨result, later, ended, onward⟩ := ih request opened
      rw [remark.now_eq] at ended onward
      exact ⟨result, later, ended, onward⟩
  | sleep duration next ih =>
      have rested := wait_free isOpen endless duration [free] (by simp) span request
      obtain ⟨result, later, ended, onward⟩ := ih request (isOpen.moved _)
      refine ⟨result, later, (Work.bind_of_done rested _).trans ended, ?_⟩
      exact Nat.le_trans (Session.le_tick_add _ _) onward
  | sleepWithin duration next ih =>
      have rested := within_free isOpen endless duration span request
      obtain ⟨result, later, ended, onward⟩ := ih request (isOpen.moved _)
      refine ⟨result, later, (Work.bind_of_done rested _).trans ended, ?_⟩
      exact Nat.le_trans (Session.le_tick_add _ _) onward

/-! ## Within a deadline -/

/-- The deadline has not come, or the clock is at its tick. -/
def InTime (bound now : Nat) : Prop :=
  now < bound ∨ now = Session.tick bound

theorem InTime.le_tick
    {now : Nat}
    (inTime : InTime bound now) :
    now ≤ Session.tick bound := by
  rcases inTime with early | rfl
  · exact Nat.le_trans (Nat.le_of_lt early) (Session.le_tick bound)
  · exact Nat.le_refl _

theorem inTime_of_tick
    {instant : Nat}
    (ready : Session.tick instant ≤ Session.tick bound) :
    InTime bound (Session.tick instant) := by
  by_cases early : Session.tick instant < bound
  · exact Or.inl early
  · have reached := Session.tick_le_tick (Nat.le_of_not_lt early)
    exact Or.inr (Nat.le_antisymm ready reached)

/-- How a sleep to an instant ends within a deadline. -/
inductive Pause (bound instant : Nat) (session : Session) : Outcome Unit → Session → Prop where
  | rested (ready : instant ≤ Session.tick bound) :
      Pause bound instant session (.done ()) { session with now := instant }
  | interrupted (late : Session.tick bound ≤ instant) :
      Pause bound instant session .interrupted { session with now := Session.tick bound }
  | refused (late : Session.tick bound ≤ instant) :
      Pause bound instant session (.failed .overdue) { session with now := Session.tick bound }

theorem cutOff?_inner
    (deadline : inner.deadline = some bound)
    (isOpen : inner.IsOpen session)
    (inTime : InTime bound session.now)
    {bounds : List Context}
    (nonempty : bounds ≠ [])
    (only : ∀ context ∈ bounds, context = inner) :
    Work.cutOff? bounds session = some (Session.tick bound) := by
  apply Work.cutOff?_of_same nonempty
  intro context member
  rw [only context member]
  exact isOpen.cutOff?_eq deadline inTime.le_tick

theorem wait_pauses
    (deadline : inner.deadline = some bound)
    (isOpen : inner.IsOpen session)
    (inTime : InTime bound session.now)
    (duration : Nat)
    {bounds : List Context}
    (nonempty : bounds ≠ [])
    (only : ∀ context ∈ bounds, context = inner)
    (span : Option Span)
    (request : Request) :
    ∃ outcome later,
      Work.wait duration ⟨bounds, span⟩ request session = (outcome, request, later) ∧
        Pause bound (Session.tick (session.now + duration)) session outcome later := by
  have cut := cutOff?_inner deadline isOpen inTime nonempty only
  have waited : Work.wait duration ⟨bounds, span⟩ request session = _ :=
    Work.wait_eq_of_cutOff cut inTime.le_tick duration request
  by_cases ready : Session.tick (session.now + duration) ≤ Session.tick bound
  · rw [if_pos ready] at waited
    exact ⟨_, _, waited, .rested ready⟩
  · rw [if_neg ready] at waited
    exact ⟨_, _, waited, .interrupted (Nat.le_of_lt (Nat.lt_of_not_le ready))⟩

theorem within_pauses
    (deadline : inner.deadline = some bound)
    (isOpen : inner.IsOpen session)
    (inTime : InTime bound session.now)
    (duration : Nat)
    (span : Option Span)
    (request : Request) :
    ∃ outcome later,
      Work.within inner (Work.wait duration) ⟨[inner], span⟩ request session =
          (outcome, request, later) ∧
        Pause bound (Session.tick (session.now + duration)) session outcome later := by
  have lasting := isOpen.hasEnded_eq deadline
  by_cases passed : bound ≤ session.now
  · -- The clock is at the tick of the deadline, and the context refuses the wait.
    have now_eq : session.now = Session.tick bound := by
      rcases inTime with early | tick
      · exact absurd passed (Nat.not_le_of_lt early)
      · exact tick
    rw [decide_eq_true passed] at lasting
    refine ⟨.failed .overdue, { session with now := Session.tick bound }, ?_, .refused ?_⟩
    · rw [Work.within, if_pos lasting, isOpen.ending_eq, ← now_eq]
    · rw [← now_eq]
      exact Session.le_tick_add session.now duration
  · rw [decide_eq_false passed] at lasting
    have nonempty : [inner, inner] ≠ [] := List.cons_ne_nil _ _
    obtain ⟨outcome, later, waited, pause⟩ :=
      wait_pauses deadline isOpen inTime duration nonempty (by simp) span request
    cases pause with
    | rested ready =>
        exact ⟨_, _, Work.within_of_done lasting waited, .rested ready⟩
    | interrupted late =>
        refine ⟨.failed .overdue, _, ?_, .refused late⟩
        exact Work.within_of_interrupted lasting waited (isOpen.moved _) deadline (Session.le_tick bound)
    | refused late =>
        exact ⟨_, _, Work.within_of_failed lasting waited, .refused late⟩

/-! ## The two runs -/

/-- How a run that begins with a request and a deadline ahead meets the run without the deadline. -/
inductive Meets (bound : Nat) (request : Request) (edits : List (Nat × Request))
    (tokens : List Token) :
    Outcome α × Request × Session → Outcome α × Request × Session → Prop where
  | together (result : Except Failure α) {later other : Session}
      (same : later.now = other.now)
      (inTime : InTime bound later.now)
      (kept : later.cancelled = tokens) :
      Meets bound request edits tokens (.ofResult result, latest request edits, later)
        (.ofResult result, latest request edits, other)
  | apart {outcome : Outcome α} {later : Session} {other : Outcome α × Request × Session}
      (made lost : List (Nat × Request))
      (stopped : outcome = .interrupted ∨ outcome = .failed .overdue)
      (split : edits = made ++ lost)
      (before : ∀ edit ∈ made, edit.1 ≤ Session.tick bound)
      (behind : ∀ edit ∈ lost, Session.tick bound ≤ edit.1)
      (cut : later.now = Session.tick bound)
      (kept : later.cancelled = tokens)
      (onward : Session.tick bound ≤ other.2.2.now) :
      Meets bound request edits tokens (outcome, latest request made, later) other

theorem Meets.edit
    {request : Request}
    {edits : List (Nat × Request)}
    {tokens : List Token}
    {changed : Request}
    {left right : Outcome α × Request × Session}
    {now : Nat}
    (meets : Meets bound changed edits tokens left right)
    (before : now ≤ Session.tick bound) :
    Meets bound request ((now, changed) :: edits) tokens left right := by
  cases meets with
  | together result same inTime kept => exact .together result same inTime kept
  | apart made lost stopped split earlier behind cut kept onward =>
      have all_before : ∀ edit ∈ (now, changed) :: made, edit.1 ≤ Session.tick bound := by
        intro edit member
        rcases List.mem_cons.mp member with rfl | among
        · exact before
        · exact earlier edit among
      have split_later := congrArg ((now, changed) :: ·) split
      exact .apart _ lost stopped split_later all_before behind cut kept onward

/-- Behind a sleep the runs go on together, or the first one has been cut off. -/
theorem meets_of_pause
    (next : Routine α)
    {pause freePause : Work Request Unit}
    {outcome : Outcome Unit}
    {later : Session}
    {instant : Nat}
    {span : Option Span}
    {request : Request}
    (endless : free.deadline = none)
    (freeOpen : free.IsOpen other)
    (paused : pause ⟨[inner], span⟩ request session = (outcome, request, later))
    (manner : Pause bound instant session outcome later)
    (rested : freePause ⟨[free], span⟩ request other =
      (.done (), request, { other with now := instant }))
    (meets : instant ≤ Session.tick bound →
      Meets bound request (edits inner.requestId instant next request) session.cancelled
        (next.run inner ⟨[inner], span⟩ request { session with now := instant })
        (next.run free ⟨[free], span⟩ request { other with now := instant })) :
    Meets bound request (edits inner.requestId instant next request) session.cancelled
      ((pause >>= fun _ => next.run inner) ⟨[inner], span⟩ request session)
      ((freePause >>= fun _ => next.run free) ⟨[free], span⟩ request other) := by
  rw [Work.bind_of_done rested]
  obtain ⟨result, last, ended, onward⟩ :=
    run_free next span request endless (freeOpen.moved instant)
  have lost : ∀ edit ∈ edits inner.requestId instant next request, instant ≤ edit.1 := by
    intro edit member
    exact le_of_mem_edits _ next member
  have cut_off {stopped : Outcome α} (late : Session.tick bound ≤ instant)
      (manner : stopped = .interrupted ∨ stopped = .failed .overdue) :
      Meets bound request (edits inner.requestId instant next request) session.cancelled
        (stopped, request, { session with now := Session.tick bound })
        (next.run free ⟨[free], span⟩ request { other with now := instant }) := by
    rw [ended]
    have behind : ∀ edit ∈ edits inner.requestId instant next request,
        Session.tick bound ≤ edit.1 := by
      intro edit member
      exact Nat.le_trans late (lost edit member)
    exact .apart [] _ manner rfl (by simp) behind rfl rfl (Nat.le_trans late onward)
  cases manner with
  | rested ready =>
      rw [Work.bind_of_done paused]
      exact meets ready
  | interrupted late =>
      rw [Work.bind_of_interrupted paused]
      exact cut_off late (Or.inl rfl)
  | refused late =>
      rw [Work.bind_of_failed paused]
      exact cut_off late (Or.inr rfl)

/-- A routine that begins in time meets itself without the deadline. -/
theorem meets
    (routine : Routine α)
    (span : Option Span)
    (request : Request)
    (deadline : inner.deadline = some bound)
    (endless : free.deadline = none)
    (same_id : inner.requestId = free.requestId)
    (isOpen : inner.IsOpen session)
    (freeOpen : free.IsOpen other)
    (same : session.now = other.now)
    (inTime : InTime bound session.now) :
    Meets bound request (edits inner.requestId session.now routine request) session.cancelled
      (routine.run inner ⟨[inner], span⟩ request session)
      (routine.run free ⟨[free], span⟩ request other) := by
  induction routine generalizing request session other with
  | finish result =>
      cases result with
      | ok value => exact .together (.ok value) same inTime rfl
      | error failure => exact .together (.error failure) same inTime rfl
  | look next ih =>
      have onward := ih inner.requestId request request isOpen freeOpen same inTime
      rw [edits]
      change Meets _ _ _ _ ((next inner.requestId request).run inner _ _ _)
        ((next free.requestId request).run free _ _ _)
      rw [← same_id]
      exact onward
  | edit change next ih =>
      exact (ih (change request) isOpen freeOpen same inTime).edit inTime.le_tick
  | note remark next ih =>
      have opened : inner.IsOpen (remark.change session) :=
        (remark.isCancelled_eq session inner.token).trans isOpen
      have freeOpened : free.IsOpen (remark.change other) :=
        (remark.isCancelled_eq other free.token).trans freeOpen
      have now_eq := remark.now_eq session
      have onward := ih request opened freeOpened
        (by rw [now_eq, remark.now_eq, same]) (by rw [now_eq]; exact inTime)
      rw [now_eq, remark.cancelled_eq] at onward
      exact onward
  | sleep duration next ih =>
      obtain ⟨outcome, later, waited, pause⟩ :=
        wait_pauses deadline isOpen inTime duration (List.cons_ne_nil inner []) (by simp) span request
      have rested := wait_free freeOpen endless duration [free] (by simp) span request
      rw [← same] at rested
      rw [edits]
      refine meets_of_pause next endless freeOpen waited pause rested ?_
      intro ready
      exact ih request (isOpen.moved _) (freeOpen.moved _) rfl (inTime_of_tick ready)
  | sleepWithin duration next ih =>
      obtain ⟨outcome, later, waited, pause⟩ :=
        within_pauses deadline isOpen inTime duration span request
      have rested := within_free freeOpen endless duration span request
      rw [← same] at rested
      rw [edits]
      refine meets_of_pause next endless freeOpen waited pause rested ?_
      intro ready
      exact ih request (isOpen.moved _) (freeOpen.moved _) rfl (inTime_of_tick ready)

end Routine

end RequestHub
