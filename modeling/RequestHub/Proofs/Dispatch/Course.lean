import RequestHub.Proofs.Dispatch.Stage

/-!
# The course of a passage

What a run of the stages can have called, and what it must have reached.  `Accounts` is the invariant:
the stage that a run has reached determines the calls that were made, each step of the way in once and
in order, then the target, then each step of the way out, and a run to an answer has made the
beginning of that course.  From it follow what the call of the target and of a step on the way out
say about the stages before, and when the answer is a response.
-/

namespace RequestHub.Dispatch

variable {hub : Hub} {context : Context} {scope : Scope}

/-! ## Runs to an answer -/

/-- The calls, the answer and the session behind it are determined by the beginning. -/
theorem Run.rendered_unique
    {first : Position} {left right : Except FailedRequest Response}
    {leftRequest rightRequest : Request} {leftSession rightSession : Session}
    {leftCalls rightCalls : List Call}
    (leftRun : Run hub context scope first leftCalls ⟨.rendered left, leftRequest, leftSession⟩)
    (rightRun : Run hub context scope first rightCalls
      ⟨.rendered right, rightRequest, rightSession⟩) :
    leftCalls = rightCalls ∧ left = right ∧ leftSession = rightSession := by
  rcases leftRun.to_rendered_from rightRun with ⟨rest, rfl, run⟩
  rcases run.of_rendered with ⟨rfl, same⟩
  cases same
  simp

/-- A move to an answer, wherever a run makes it, decides the answer of every run. -/
theorem Run.rendered_by_move
    {first middle : Position} {left right : Except FailedRequest Response}
    {leftRequest rightRequest : Request} {leftSession rightSession : Session}
    {calls others whole : List Call}
    (wholeRun : Run hub context scope first whole ⟨.rendered left, leftRequest, leftSession⟩)
    (run : Run hub context scope first calls middle)
    (last : Move hub context scope middle others ⟨.rendered right, rightRequest, rightSession⟩) :
    whole = calls ++ others ∧ left = right ∧ leftSession = rightSession :=
  wholeRun.rendered_unique (run.trans (.single last))

/-! ## The calls that a stage accounts for -/

namespace Passage

/-- The calls that are made before the first step of a way. -/
def before (passage : Passage) : Way → List Call
  | .inward => []
  | .outward => stepCalls .inward (passage.steps .inward).length ++ [.target]

/-- The calls that a position of the passage accounts for. -/
def Accounts (passage : Passage) (calls : List Call) (position : Position) : Prop :=
  match position.stage with
  | .received => False
  | .underway way other index =>
      other = passage ∧ index ≤ (passage.steps way).length ∧
        calls = passage.before way ++ stepCalls way index
  | .passed way other =>
      other = passage ∧
        calls = passage.before way ++ stepCalls way (passage.steps way).length
  | .rendered _ => calls <+: passage.course

theorem course_eq (passage : Passage) :
    passage.course =
      passage.before .outward ++ stepCalls .outward (passage.steps .outward).length := by
  simp [course, before]

theorem stepCalls_isPrefix
    (way : Way) {index count : Nat} (le : index ≤ count) :
    stepCalls way index <+: stepCalls way count := by
  rcases Nat.exists_eq_add_of_le le with ⟨more, rfl⟩
  simp [stepCalls, List.range_add]

/-- The calls before a way and its first steps begin the course. -/
theorem before_append_isPrefix
    (passage : Passage) (way : Way) {index : Nat} (le : index ≤ (passage.steps way).length) :
    passage.before way ++ stepCalls way index <+: passage.course := by
  have ahead := stepCalls_isPrefix way le
  cases way with
  | inward =>
      exact ahead.trans (List.prefix_append _ _)
  | outward =>
      rw [course_eq]
      exact (List.prefix_append_right_inj _).mpr ahead

/-- The calls before the way out are those of the way in and that of the target. -/
theorem before_outward_isPrefix (passage : Passage) :
    passage.before .inward ++ stepCalls .inward (passage.steps .inward).length ++ [.target] <+:
      passage.course := by
  rw [course_eq]
  exact List.prefix_append _ _

/-- Every move keeps the account. -/
theorem Accounts.move
    {passage : Passage} {before calls : List Call} {position next : Position}
    (accounts : passage.Accounts before position)
    (move : Move hub context scope position calls next) :
    passage.Accounts (before ++ calls) next := by
  cases move with
  | serviceMissing => exact accounts.elim
  | handlerMissing => exact accounts.elim
  | route => exact accounts.elim
  | @stepDone way _ index _ _ _ _ _ ahead =>
      rcases accounts with ⟨rfl, -, rfl⟩
      have inside := (List.getElem?_eq_some_iff.mp ahead).1
      refine ⟨rfl, inside, ?_⟩
      rw [stepCalls_succ, List.append_assoc]
  | @stepFailed way _ index _ _ _ _ _ _ ahead =>
      rcases accounts with ⟨rfl, -, rfl⟩
      have inside := (List.getElem?_eq_some_iff.mp ahead).1
      rw [List.append_assoc, ← stepCalls_succ]
      exact before_append_isPrefix _ way inside
  | stepsDone none_ahead =>
      rcases accounts with ⟨rfl, le, rfl⟩
      have ended := Nat.le_antisymm le (List.getElem?_eq_none_iff.mp none_ahead)
      exact ⟨rfl, by simp [ended]⟩
  | targetMissing =>
      rcases accounts with ⟨rfl, rfl⟩
      rw [List.append_nil]
      exact before_append_isPrefix _ .inward (Nat.le_refl _)
  | targetAnswered =>
      rcases accounts with ⟨rfl, rfl⟩
      exact ⟨rfl, Nat.zero_le _, by simp [Passage.before]⟩
  | targetSilent =>
      rcases accounts with ⟨rfl, rfl⟩
      exact before_outward_isPrefix _
  | targetFailed =>
      rcases accounts with ⟨rfl, rfl⟩
      exact before_outward_isPrefix _
  | answered =>
      rcases accounts with ⟨rfl, rfl⟩
      rw [List.append_nil]
      exact before_append_isPrefix _ .outward (Nat.le_refl _)
  | detached =>
      rcases accounts with ⟨rfl, rfl⟩
      rw [List.append_nil]
      exact before_append_isPrefix _ .outward (Nat.le_refl _)

theorem Accounts.routed
    (passage : Passage) (request : Request) (session : Session) :
    passage.Accounts [] ⟨.routed passage, request, session⟩ :=
  ⟨rfl, Nat.zero_le _, rfl⟩

end Passage

/-- What a run from the beginning of a passage has called. -/
theorem Run.accounts
    {passage : Passage} {request : Request} {session : Session} {calls : List Call}
    {position : Position}
    (run : Run hub context scope ⟨.routed passage, request, session⟩ calls position) :
    passage.Accounts calls position :=
  Run.preserves passage.Accounts (fun accounts move => accounts.move move)
    (.routed passage request session) run

/-! ## What has been reached -/

/-- A run from a position reaches a stage, with some request in some session. -/
def Reaches
    (hub : Hub) (context : Context) (scope : Scope) (first : Position) (stage : Stage) : Prop :=
  ∃ calls request session, Run hub context scope first calls ⟨stage, request, session⟩

/-- The target is called behind the way in, and answers with a response. -/
def TargetAnswers
    (hub : Hub) (context : Context) (scope : Scope) (first : Position) (passage : Passage) : Prop :=
  ∃ target response walked asked asking changed later,
    Run hub context scope first walked ⟨.inboundApplied passage, asked, asking⟩ ∧
    passage.handler.target = some target ∧
    target.run passage.context (passage.scope scope) asked asking =
      (.done (some response), changed, later)

/-- A run that begins on a way passes it, or calls nothing but steps of that way. -/
theorem Run.passes_or_stops
    {first last : Position} {calls : List Call}
    (run : Run hub context scope first calls last)
    {way : Way} {passage : Passage} {index : Nat} {answer : Except FailedRequest Response}
    (begins : first.stage = .underway way passage index)
    (ends : last.stage = .rendered answer) :
    (∃ walked rest changed later, calls = walked ++ rest ∧
        Run hub context scope first walked ⟨.passed way passage, changed, later⟩ ∧
        Run hub context scope ⟨.passed way passage, changed, later⟩ rest last) ∨
      ∀ call ∈ calls, ∃ place, call = .step way place := by
  induction run generalizing index with
  | refl => cases begins.symm.trans ends
  | move head tail ih =>
      cases head with
      | stepDone ahead ended =>
          cases begins
          rcases ih rfl ends with ⟨walked, rest, changed, later, rfl, run, onward⟩ | only
          · exact Or.inl
              ⟨_, rest, changed, later, (List.append_assoc ..).symm,
                .move (.stepDone ahead ended) run, onward⟩
          · right
            intro call member
            rcases List.mem_append.mp member with this | others
            · exact ⟨index, List.mem_singleton.mp this⟩
            · exact only call others
      | stepFailed =>
          cases begins
          rcases tail.of_rendered with ⟨rfl, -⟩
          right
          intro call member
          exact ⟨index, by simpa using member⟩
      | stepsDone none_ahead =>
          cases begins
          exact Or.inl ⟨[], _, _, _, rfl, .single (.stepsDone none_ahead), tail⟩
      | _ => cases begins

section

variable {passage : Passage} {request last : Request} {session later : Session}
  {calls : List Call} {answer : Except FailedRequest Response}

/-- The target is called exactly when there is one and all steps on the way in have succeeded. -/
theorem Run.target_called_iff
    (run : Run hub context scope ⟨.routed passage, request, session⟩ calls
      ⟨.rendered answer, last, later⟩) :
    .target ∈ calls ↔
      passage.handler.target.isSome ∧
        Reaches hub context scope ⟨.routed passage, request, session⟩ (.inboundApplied passage) := by
  constructor
  · intro called
    rcases run.passes_or_stops rfl rfl with ⟨walked, rest, _, _, rfl, entered, onward⟩ | only
    · refine ⟨?_, walked, _, _, entered⟩
      cases onward with
      | move head tail =>
          cases head with
          | targetMissing missing =>
              rcases tail.of_rendered with ⟨rfl, -⟩
              simp [entered.accounts.2, Passage.before] at called
          | targetAnswered found => simp [found]
          | targetSilent found => simp [found]
          | targetFailed found => simp [found]
    · rcases only .target called with ⟨place, impossible⟩
      cases impossible
  · rintro ⟨present, entered, _, _, reached⟩
    rcases run.to_rendered_from reached with ⟨rest, rfl, onward⟩
    apply List.mem_append_right
    cases onward with
    | move head =>
        cases head with
        | targetMissing missing => simp [missing] at present
        | targetAnswered => simp
        | targetSilent => simp
        | targetFailed => simp

/-- A step on the way out is called only after the target has answered with a response. -/
theorem Run.answers_of_outward
    (run : Run hub context scope ⟨.routed passage, request, session⟩ calls
      ⟨.rendered answer, last, later⟩)
    {index : Nat} (called : .step .outward index ∈ calls) :
    TargetAnswers hub context scope ⟨.routed passage, request, session⟩ passage := by
  rcases run.passes_or_stops rfl rfl with ⟨walked, rest, changed, _, rfl, entered, onward⟩ | only
  · have silent : .step .outward index ∉ walked := by
      simp [entered.accounts.2, Passage.before]
    have later : .step .outward index ∈ rest :=
      (List.mem_append.mp called).resolve_left silent
    cases onward with
    | move head tail =>
        cases head with
        | targetAnswered found ended =>
            exact ⟨_, _, walked, _, _, _, _, entered, found, ended⟩
        | targetMissing =>
            rcases tail.of_rendered with ⟨rfl, -⟩
            simp at later
        | targetSilent =>
            rcases tail.of_rendered with ⟨rfl, -⟩
            simp at later
        | targetFailed =>
            rcases tail.of_rendered with ⟨rfl, -⟩
            simp at later
  · rcases only _ called with ⟨place, impossible⟩
    cases impossible

/-! ## The answer -/

/-- A response is the answer exactly when it is still attached behind the last step on the way out. -/
theorem Run.answered_iff
    (run : Run hub context scope ⟨.routed passage, request, session⟩ calls
      ⟨.rendered answer, last, later⟩)
    (response : Response) :
    answer = .ok response ↔
      ∃ walked changed ended,
        Run hub context scope ⟨.routed passage, request, session⟩ walked
          ⟨.outboundApplied passage, changed, ended⟩ ∧
        changed.response = some response := by
  constructor
  · rintro rfl
    rcases run.eq_or_last with ⟨-, impossible⟩ | ⟨middle, before, others, rfl, reached, move⟩
    · cases impossible
    · cases move with
      | answered attached =>
          rcases reached.accounts with ⟨rfl, -⟩
          exact ⟨before, _, _, reached, attached⟩
  · rintro ⟨walked, changed, ended, reached, attached⟩
    exact (run.rendered_by_move reached (.answered attached)).2.1

/-! ## Calls that the plugins note themselves -/

/-- Work that notes a number whenever it is done. -/
def Notes {α : Type} (work : Work Request α) (scope : Scope) (number : Nat) : Prop :=
  ∀ request session,
    (work scope request session).2.2.called = session.called ++ [number]

theorem Notes.append
    {α : Type} {work : Work Request α} {mark : Call → Nat} {call : Call} {outcome : Outcome α}
    {changed : Request} {first : List Nat} {before : List Call}
    (notes : Notes work scope (mark call))
    (ended : work scope request session = (outcome, changed, later))
    (noted : session.called = first ++ before.map mark) :
    later.called = first ++ (before ++ [call]).map mark := by
  have added := notes request session
  rw [ended, noted] at added
  simpa using added

/-- Each plugin of a passage notes its call, by a number of its own. -/
structure Passage.Signed (passage : Passage) (scope : Scope) (mark : Call → Nat) : Prop where
  step : ∀ {way index step}, (passage.steps way)[index]? = some step →
    Notes (step.task.run passage.context) (passage.scope scope) (mark (.step way index))
  target : ∀ {target}, passage.handler.target = some target →
    Notes (target.run passage.context) (passage.scope scope) (mark .target)

/-- The calls of a run are those that the plugins have noted, in order. -/
theorem Run.called_eq
    {mark : Call → Nat} {position : Position}
    (signed : passage.Signed scope mark)
    (run : Run hub context scope ⟨.routed passage, request, session⟩ calls position) :
    position.session.called = session.called ++ calls.map mark := by
  refine (Run.preserves
    (fun calls position => passage.Accounts calls position ∧
      position.session.called = session.called ++ calls.map mark)
    ?_ ⟨.routed passage request session, by simp⟩ run).2
  intro before calls position next holds move
  rcases holds with ⟨accounts, noted⟩
  refine ⟨accounts.move move, ?_⟩
  cases move with
  | serviceMissing => exact accounts.elim
  | handlerMissing => exact accounts.elim
  | route => exact accounts.elim
  | stepDone ahead ended =>
      rcases accounts with ⟨rfl, -⟩
      exact (signed.step ahead).append ended noted
  | stepFailed ahead ended =>
      rcases accounts with ⟨rfl, -⟩
      exact (signed.step ahead).append ended noted
  | targetAnswered found ended =>
      rcases accounts with ⟨rfl, -⟩
      exact (signed.target found).append ended noted
  | targetSilent found ended =>
      rcases accounts with ⟨rfl, -⟩
      exact (signed.target found).append ended noted
  | targetFailed found ended =>
      rcases accounts with ⟨rfl, -⟩
      exact (signed.target found).append ended noted
  | stepsDone => rwa [List.append_nil]
  | targetMissing => rwa [List.append_nil]
  | answered => rwa [List.append_nil]
  | detached => rwa [List.append_nil]

/-! ## The response of a failed request -/

/-- Work that attaches no response to a request without one. -/
def AttachesNone {α : Type} (work : Work Request α) (scope : Scope) : Prop :=
  ∀ request session,
    request.response = none → (work scope request session).2.1.response = none

/-- No plugin of a passage attaches a response. -/
structure Passage.Reserved (passage : Passage) (scope : Scope) : Prop where
  step : ∀ {way step}, step ∈ passage.steps way →
    AttachesNone (step.task.run passage.context) (passage.scope scope)
  target : ∀ {target}, passage.handler.target = some target →
    AttachesNone (target.run passage.context) (passage.scope scope)

theorem AttachesNone.of_eq
    {α : Type} {work : Work Request α} {outcome : Outcome α} {changed : Request}
    (reserved : AttachesNone work scope)
    (ended : work scope request session = (outcome, changed, later))
    (unanswered : request.response = none) :
    changed.response = none := by
  have kept := reserved request session unanswered
  rwa [ended] at kept

/-- Before the target has answered there is no response. -/
def Unanswered (position : Position) : Prop :=
  match position.stage with
  | .underway .inward _ _ | .passed .inward _ => position.request.response = none
  | _ => True

theorem Run.unanswered
    {position : Position}
    (reserved : passage.Reserved scope)
    (unanswered : request.response = none)
    (run : Run hub context scope ⟨.routed passage, request, session⟩ calls position) :
    Unanswered position := by
  refine (Run.preserves
    (fun calls position => passage.Accounts calls position ∧ Unanswered position)
    ?_ ⟨.routed passage request session, unanswered⟩ run).2
  intro before calls position next holds move
  rcases holds with ⟨accounts, still⟩
  refine ⟨accounts.move move, ?_⟩
  cases move with
  | route => exact accounts.elim
  | @stepDone way _ _ _ _ _ _ _ ahead ended =>
      rcases accounts with ⟨rfl, -⟩
      cases way with
      | inward => exact (reserved.step (List.mem_of_getElem? ahead)).of_eq ended still
      | outward => trivial
  | @stepsDone way =>
      cases way with
      | inward => exact still
      | outward => trivial
  | _ => trivial

/-- A failed request carries a response only after the target has answered. -/
theorem Run.answers_of_response
    {failed : FailedRequest}
    (reserved : passage.Reserved scope)
    (unanswered : request.response = none)
    (run : Run hub context scope ⟨.routed passage, request, session⟩ calls
      ⟨.rendered (.error failed), last, later⟩)
    (carries : failed.response ≠ none) :
    TargetAnswers hub context scope ⟨.routed passage, request, session⟩ passage := by
  rcases run.eq_or_last with ⟨-, impossible⟩ | ⟨middle, before, others, rfl, reached, move⟩
  · cases impossible
  · have still := reached.unanswered reserved unanswered
    have accounts := reached.accounts
    cases move with
    | serviceMissing => exact accounts.elim
    | handlerMissing => exact accounts.elim
    | @stepFailed way _ _ _ _ _ _ _ _ ahead ended =>
        rcases accounts with ⟨rfl, -⟩
        cases way with
        | inward =>
            exact absurd
              ((reserved.step (List.mem_of_getElem? ahead)).of_eq ended still) carries
        | outward => exact run.answers_of_outward (List.mem_append_right _ (List.mem_singleton_self _))
    | targetMissing => exact absurd still carries
    | targetSilent found ended =>
        rcases accounts with ⟨rfl, -⟩
        exact absurd ((reserved.target found).of_eq ended still) carries
    | targetFailed found ended =>
        rcases accounts with ⟨rfl, -⟩
        exact absurd ((reserved.target found).of_eq ended still) carries
    | detached => exact absurd rfl carries

end

end RequestHub.Dispatch
