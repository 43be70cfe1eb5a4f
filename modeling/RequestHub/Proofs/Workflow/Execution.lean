import RequestHub.Proofs.Dispatch.Course
import RequestHub.Proofs.Workflow.Arrangement

/-!
# The execution of a workflow

The steps of a workflow run one after another, each on what the one before has left behind, and the first
one that is not done ends the run as it ends itself.  `Ends` tells how a run of steps ends, with the steps
that have run; it has one rule for each way in which the next step can go.  The main statement joins this
with the arrangement of the steps: however a workflow is made, its run is the run of the steps that were
added to it, in their stable order.
-/

namespace RequestHub

namespace Workflow

/--
A run of steps from a request and a session on: the steps that run, how the run ends, and what it leaves
behind.  What would come behind a step that is not done has no part in it.
-/
inductive Ends (context : Context) (scope : Scope) :
    List Step → Request × Session → List Step → Outcome Unit → Request × Session → Prop where
  | finished {here : Request × Session} :
      Ends context scope [] here [] (.done ()) here
  | passed {step : Step} {steps ran : List Step} {here next last : Request × Session}
      {outcome : Outcome Unit}
      (done : step.task.run context scope here.1 here.2 = (.done (), next))
      (rest : Ends context scope steps next ran outcome last) :
      Ends context scope (step :: steps) here (step :: ran) outcome last
  | stopped {step : Step} {steps : List Step} {here last : Request × Session}
      {outcome : Outcome Unit}
      (ended : step.task.run context scope here.1 here.2 = (outcome, last))
      (undone : outcome ≠ .done ()) :
      Ends context scope (step :: steps) here [step] outcome last

namespace Ends

variable {context : Context} {scope : Scope} {steps ran otherRan : List Step}
  {here last otherLast : Request × Session} {outcome otherOutcome : Outcome Unit}

/-- Steps run in one way only. -/
theorem unique
    (left : Ends context scope steps here ran outcome last)
    (right : Ends context scope steps here otherRan otherOutcome otherLast) :
    ran = otherRan ∧ outcome = otherOutcome ∧ last = otherLast := by
  induction left generalizing otherRan with
  | finished =>
      cases right with
      | finished => exact ⟨rfl, rfl, rfl⟩
  | passed done rest ih =>
      cases right with
      | passed otherDone otherRest =>
          cases done.symm.trans otherDone
          obtain ⟨rfl, same⟩ := ih otherRest
          exact ⟨rfl, same⟩
      | stopped ended undone =>
          cases done.symm.trans ended
          exact absurd rfl undone
  | stopped ended undone =>
      cases right with
      | passed done rest =>
          cases done.symm.trans ended
          exact absurd rfl undone
      | stopped otherEnded otherUndone =>
          cases ended.symm.trans otherEnded
          exact ⟨rfl, rfl, rfl⟩

theorem exists_of
    (context : Context) (scope : Scope) (steps : List Step) (here : Request × Session) :
    ∃ ran outcome last, Ends context scope steps here ran outcome last := by
  induction steps generalizing here with
  | nil => exact ⟨[], .done (), here, .finished⟩
  | cons step steps ih =>
      rcases ended : step.task.run context scope here.1 here.2 with ⟨outcome, next⟩
      by_cases done : outcome = .done ()
      · subst done
        obtain ⟨ran, outcome, last, rest⟩ := ih next
        exact ⟨step :: ran, outcome, last, .passed ended rest⟩
      · exact ⟨[step], outcome, next, .stopped ended done⟩

theorem runSteps_eq
    (ends : Ends context scope steps here ran outcome last) :
    runSteps context steps scope here.1 here.2 = (outcome, last) := by
  induction ends with
  | finished => rfl
  | passed done rest ih => exact (Work.bind_of_done done _).trans ih
  | stopped ended undone => exact Work.bind_of_undone ended undone

theorem ran_eq_of_done
    (ends : Ends context scope steps here ran (.done ()) last) :
    ran = steps := by
  generalize ended : Outcome.done () = outcome at ends
  induction ends with
  | finished => rfl
  | passed done rest ih => rw [ih ended]
  | stopped failed undone => exact absurd ended.symm undone

/-- A run that is not done ends with one step, which is not done, behind steps that are. -/
theorem stopped_at
    (ends : Ends context scope steps here ran outcome last)
    (undone : outcome ≠ .done ()) :
    ∃ before step after middle,
      steps = before ++ step :: after ∧ ran = before ++ [step] ∧
        Ends context scope before here before (.done ()) middle ∧
        step.task.run context scope middle.1 middle.2 = (outcome, last) := by
  induction ends with
  | finished => exact absurd rfl undone
  | @passed first _ _ _ _ _ _ done rest ih =>
      obtain ⟨before, step, after, middle, rfl, rfl, passed, ended⟩ := ih undone
      exact ⟨first :: before, step, after, middle, rfl, rfl, .passed done passed, ended⟩
  | @stopped step steps here _ _ ended _ =>
      exact ⟨[], step, steps, here, rfl, rfl, .finished, ended⟩

/-- Steps that note their runs have noted exactly the steps that have run. -/
theorem called_eq
    {mark : Step → Nat}
    (notes : ∀ step ∈ steps, Dispatch.Notes (step.task.run context) scope (mark step))
    (ends : Ends context scope steps here ran outcome last) :
    last.2.called = here.2.called ++ ran.map mark := by
  have noted {step : Step} {here next : Request × Session} {outcome : Outcome Unit}
      (notes : Dispatch.Notes (step.task.run context) scope (mark step))
      (ended : step.task.run context scope here.1 here.2 = (outcome, next)) :
      next.2.called = here.2.called ++ [mark step] := by
    have added := notes here.1 here.2
    rwa [ended] at added
  induction ends with
  | finished => simp
  | passed done rest ih =>
      have first := noted (notes _ List.mem_cons_self) done
      have others := ih fun step member => notes step (List.mem_cons_of_mem _ member)
      rw [others, first]
      simp
  | stopped ended undone =>
      have only := noted (notes _ List.mem_cons_self) ended
      simpa using only

end Ends

/-- Steps that are run one after another end as told, and in no other way. -/
theorem runSteps_eq_iff
    {context : Context} {scope : Scope} {steps : List Step} {last : Request × Session}
    {outcome : Outcome Unit}
    (here : Request × Session) :
    runSteps context steps scope here.1 here.2 = (outcome, last) ↔
      ∃ ran, Ends context scope steps here ran outcome last := by
  constructor
  · intro ended
    obtain ⟨ran, otherOutcome, otherLast, ends⟩ := Ends.exists_of context scope steps here
    cases ends.runSteps_eq.symm.trans ended
    exact ⟨ran, ends⟩
  · rintro ⟨ran, ends⟩
    exact ends.runSteps_eq

/-- What is true of a workflow to which steps were added in some order. -/
structure Orderly (workflow : Workflow) (added : List Step) : Prop where
  /-- The buckets are in order, none is empty, and each holds steps of its precedence. -/
  sound : workflow.Sound
  /-- The steps stand in the order of precedence, and of one precedence in the order of addition. -/
  arranges : Arranges workflow.steps added
  steps_eq : workflow.steps = added.mergeSort noLater
  size_eq : workflow.size = added.length
  isEmpty_iff : workflow.isEmpty = true ↔ added = []
  precedences_increase : workflow.precedences.Pairwise (· < ·)
  mem_precedences_iff : ∀ precedence,
    precedence ∈ workflow.precedences ↔ ∃ step ∈ added, step.precedence = precedence
  /-- Of each precedence with which steps were added there is one bucket, and it holds these steps. -/
  mem_buckets_iff : ∀ precedence steps,
    (precedence, steps) ∈ workflow.buckets ↔
      steps ≠ [] ∧ steps = added.filter (·.precedence = precedence)
  run_eq_iff : ∀ {context scope request session outcome last},
    workflow.run context scope request session = (outcome, last) ↔
      ∃ ran, Ends context scope (added.mergeSort noLater) (request, session) ran outcome last
  /-- A run that is done has run all steps. -/
  ran_all : ∀ {context scope here ran last},
    Ends context scope (added.mergeSort noLater) here ran (.done ()) last →
      ran = added.mergeSort noLater
  /-- Any other run has run the steps up to the first one that is not done, and ends as that one. -/
  ran_to_first : ∀ {context scope here ran outcome last},
    Ends context scope (added.mergeSort noLater) here ran outcome last → outcome ≠ .done () →
      ∃ before step after middle,
        added.mergeSort noLater = before ++ step :: after ∧ ran = before ++ [step] ∧
          Ends context scope before here before (.done ()) middle ∧
          step.task.run context scope middle.1 middle.2 = (outcome, last)
  called_eq : ∀ {context scope here ran outcome last} {mark : Step → Nat},
    (∀ step ∈ added, Dispatch.Notes (step.task.run context) scope (mark step)) →
    Ends context scope (added.mergeSort noLater) here ran outcome last →
      last.2.called = here.2.called ++ ran.map mark

/-- However a workflow is made, its steps stand and run in the stable order of their precedences. -/
theorem Recipe.orderly (recipe : Recipe) : recipe.workflow.Orderly recipe.added := by
  have holds := recipe.holds
  have arranges := holds.arranges
  exact {
    sound := holds.sound
    arranges
    steps_eq := arranges.eq_mergeSort
    size_eq := holds.size_eq
    isEmpty_iff := holds.isEmpty_iff
    precedences_increase := List.pairwise_map.mpr holds.sound.increase
    mem_precedences_iff := holds.mem_precedences_iff
    mem_buckets_iff := holds.mem_buckets_iff
    run_eq_iff := by
      intro context scope request session outcome last
      rw [← arranges.eq_mergeSort]
      exact runSteps_eq_iff (request, session)
    ran_all := Ends.ran_eq_of_done
    ran_to_first := Ends.stopped_at
    called_eq := by
      intro context scope here ran outcome last mark notes
      apply Ends.called_eq
      intro step member
      exact notes step (List.mem_mergeSort.mp member) }

end Workflow

end RequestHub
