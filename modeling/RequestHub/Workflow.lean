import RequestHub.Plugin
import RequestHub.Text.Record

/-!
# Workflows

A workflow keeps its steps in buckets, one for each precedence.  The buckets run in the order of their
precedences, and the steps of a bucket in the order in which they were added; the first one that fails
ends the run.
-/

namespace RequestHub

/-- A task with its place in a workflow. -/
structure Step where
  name : String
  precedence : Int
  /-- The name under which the task was found, empty if it was not found by a name. -/
  taskType : String
  description : Option String
  task : Task
deriving Inhabited

/-- A step and its neighbours in words. -/
def Step.summary (step : Step) : String :=
  Text.record "WorkflowStep"
    [("name", Text.quoted step.name), ("precedence", toString step.precedence),
      ("task_type", Text.quoted step.taskType), ("task", Text.quoted step.task.name)]
    false

/-- Steps in buckets by their precedence; the buckets are in the order of precedence. -/
structure Workflow where
  buckets : List (Int × List Step)
deriving Inhabited

namespace Workflow

/-- The workflow without steps. -/
def empty : Workflow := ⟨[]⟩

/--
A map in the order of its keys after a change of the value under a key.  A key that has no value is
entered where the order wants it, with the default to be changed.
-/
def changeEntry {α : Type} (key : Int) (default : α) (change : α → α) :
    List (Int × α) → List (Int × α)
  | [] => [(key, change default)]
  | (other, held) :: entries =>
      if key < other then (key, change default) :: (other, held) :: entries
      else if key = other then (other, change held) :: entries
      else (other, held) :: changeEntry key default change entries

/-- The workflow with one more step, the last one in the bucket of its precedence. -/
def push (workflow : Workflow) (step : Step) : Workflow :=
  ⟨changeEntry step.precedence [] (· ++ [step]) workflow.buckets⟩

/-- The workflow with more steps, added in order. -/
def extend (workflow : Workflow) (steps : List Step) : Workflow :=
  steps.foldl push workflow

/-- The workflow of some steps, added in order. -/
def ofSteps (steps : List Step) : Workflow :=
  empty.extend steps

/-- The number of steps in all buckets. -/
def size (workflow : Workflow) : Nat :=
  workflow.buckets.foldl (fun total bucket => total + bucket.2.length) 0

/-- Whether there are no buckets. -/
def isEmpty (workflow : Workflow) : Bool :=
  workflow.buckets.isEmpty

/-- The precedences of the buckets. -/
def precedences (workflow : Workflow) : List Int :=
  workflow.buckets.map (·.1)

/-- The steps in the order in which they run. -/
def steps (workflow : Workflow) : List Step :=
  workflow.buckets.flatMap (·.2)

/-- Runs steps one after another. -/
def runSteps (context : Context) : List Step → Work Request Unit
  | [] => pure ()
  | step :: steps => do
      step.task.run context
      runSteps context steps

@[simp]
theorem extend_nil (workflow : Workflow) : workflow.extend [] = workflow := rfl

@[simp]
theorem extend_cons (workflow : Workflow) (step : Step) (steps : List Step) :
    workflow.extend (step :: steps) = (workflow.push step).extend steps := rfl

@[simp]
theorem runSteps_nil (context : Context) : runSteps context [] = pure () := rfl

@[simp]
theorem runSteps_cons (context : Context) (step : Step) (steps : List Step) :
    runSteps context (step :: steps) = step.task.run context >>= fun _ => runSteps context steps :=
  rfl

/-- Runs the steps of a workflow on the request. -/
def run (workflow : Workflow) (context : Context) : Work Request Unit :=
  runSteps context workflow.steps

/-- The workflow in words. -/
def summary (workflow : Workflow) : String :=
  Text.record "Workflow"
    [("buckets", Text.table (workflow.buckets.map fun (precedence, steps) =>
        (toString precedence, Text.sequence (steps.map Step.summary))))]
    true

end Workflow

end RequestHub
