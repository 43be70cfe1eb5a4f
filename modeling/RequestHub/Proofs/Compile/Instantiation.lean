import RequestHub.Application
import RequestHub.Proofs.Compile.Support
import RequestHub.Proofs.Names

/-!
# Plugins that documents ask for

Documents ask for a plugin by every step that is switched on and by every target, and compiling calls one
factory for each of them: document by document, and within a block for the steps on the way in, for those on
the way out and for the target.  Among the factories that are registered under one name the last one counts,
apart for tasks and for targets.

What compiling has to do is laid out as a list of duties: to check something, or to make a plugin.  `Performs`
says that a part of the compiler goes through its duties in order and stops at the first one that fails.  It is
put together as the compiler is, so that every run makes the calls of a first part of the list.
-/

namespace RequestHub

namespace Registries

@[simp]
theorem foldl_withTask
    (factories : List (String × Factory Task))
    (registries : Registries) :
    factories.foldl (fun registries pair => registries.withTask pair.1 pair.2) registries =
      { registries with
        tasks := factories.foldl (fun table pair => Names.insert pair.1 pair.2 table) registries.tasks } :=
  List.foldl_hom (fun tasks => { registries with tasks }) fun _ _ => rfl

@[simp]
theorem foldl_withTarget
    (factories : List (String × Factory Target))
    (registries : Registries) :
    factories.foldl (fun registries pair => registries.withTarget pair.1 pair.2) registries =
      { registries with
        targets :=
          factories.foldl (fun table pair => Names.insert pair.1 pair.2 table) registries.targets } :=
  List.foldl_hom (fun targets => { registries with targets }) fun _ _ => rfl

end Registries

namespace Application.Plan

/-- The factories of tasks in the order in which they are registered, the built-in ones first. -/
def taskFactories (plan : Plan) : List (String × Factory Task) :=
  BuiltIn.tasks ++ plan.tasks

/-- The factories of targets, likewise. -/
def targetFactories (plan : Plan) : List (String × Factory Target) :=
  BuiltIn.targets ++ plan.targets

theorem registries_eq (plan : Plan) :
    plan.registries =
      { tasks := Names.ofList plan.taskFactories
        targets := Names.ofList plan.targetFactories } := by
  have builtIn : BuiltIn.register .empty =
      { tasks := Names.ofList BuiltIn.tasks
        targets := Names.ofList BuiltIn.targets } := rfl
  rw [registries, builtIn, Registries.foldl_withTask, Registries.foldl_withTarget]
  simp only [Names.ofList, taskFactories, targetFactories, List.foldl_append]

end Application.Plan

/-! ## What documents ask for -/

/-- A plugin that a document asks for. -/
inductive Demand where
  | task (type : String) (config : Json)
  | target (type : String) (config : Json)

namespace Definition

def Step.demand (step : Step) : Demand :=
  .task step.type step.config

def Target.demand (target : Target) : Demand :=
  .target target.type target.config

/-- A block asks for the steps that are switched on, on the way in and on the way out, and for its target. -/
def Handler.demands (block : Handler) : List Demand :=
  (block.inbound.filter (·.enabled)).map Step.demand ++
    ((block.outbound.filter (·.enabled)).map Step.demand ++ block.target.toList.map Target.demand)

def Aggregate.demands (spec : Aggregate) : List Demand :=
  spec.handlers.flatMap Handler.demands

end Definition

/-- What the documents of a home ask for, in order. -/
def Home.demands (documents : Home) : List Demand :=
  (documents.aggregates.map (·.2.spec)).flatMap Definition.Aggregate.demands

namespace Demand

open Application (Plan)

variable (plan : Plan) (serial : Nat)

/-- The call of the last factory that was registered for what is asked for, and what came of it. -/
inductive Calls : Demand → FactoryCall → Except Failure Unit → Prop where
  | task {type : String} {config : Json} {factory : Factory Task}
      (last : Names.lastUnder type plan.taskFactories = some factory) :
      Calls (.task type config) ⟨false, factory.label, serial, config⟩
        ((factory.make serial config).map fun _ => ())
  | target {type : String} {config : Json} {factory : Factory Target}
      (last : Names.lastUnder type plan.targetFactories = some factory) :
      Calls (.target type config) ⟨true, factory.label, serial, config⟩
        ((factory.make serial config).map fun _ => ())

/-- No factory was registered for what is asked for. -/
inductive Unregistered : Demand → Failure → Prop where
  | task {type : String} {config : Json} (missing : type ∉ plan.taskFactories.map (·.1)) :
      Unregistered (.task type config) (.taskNotRegistered type)
  | target {type : String} {config : Json} (missing : type ∉ plan.targetFactories.map (·.1)) :
      Unregistered (.target type config) (.targetNotRegistered type)

end Demand

/-! ## Duties -/

/-- What a part of the compiler has to do: to check something, or to make a plugin. -/
inductive Duty (ε : Type) where
  | check (outcome : Except ε Unit)
  | make (words : Failure → ε) (demand : Demand)

namespace Duty

variable {ε ζ : Type}

/-- The same duty with its failures told in other words. -/
def told (words : ε → ζ) : Duty ε → Duty ζ
  | .check outcome => .check (outcome.mapError words)
  | .make inner demand => .make (words ∘ inner) demand

/-- What a duty asks for. -/
def demand? : Duty ε → Option Demand
  | .check _ => none
  | .make _ demand => some demand

@[simp]
theorem demand?_told
    (words : ε → ζ)
    (duty : Duty ε) :
    (duty.told words).demand? = duty.demand? := by
  cases duty with
  | check outcome => rfl
  | make inner demand => rfl

end Duty

section

open Application (Plan)

variable {α β ε ζ : Type} {plan : Plan} {serial : Nat} {calls : List FactoryCall}

/-- All of some duties are fulfilled, with the calls of factories that they take. -/
inductive Fulfilled (plan : Plan) : Nat → List (Duty ε) → List FactoryCall → Prop where
  | nothing {serial : Nat} : Fulfilled plan serial [] []
  | check {serial : Nat} {duties : List (Duty ε)} {calls : List FactoryCall}
      (others : Fulfilled plan serial duties calls) :
      Fulfilled plan serial (.check (.ok ()) :: duties) calls
  | make {serial : Nat} {words : Failure → ε} {demand : Demand} {call : FactoryCall}
      {duties : List (Duty ε)} {calls : List FactoryCall}
      (called : demand.Calls plan serial call (.ok ()))
      (others : Fulfilled plan (serial + 1) duties calls) :
      Fulfilled plan serial (.make words demand :: duties) (call :: calls)

/-- A duty fails, with the call of a factory that refuses, or without one. -/
inductive Duty.Fails (plan : Plan) (serial : Nat) : Duty ε → ε → List FactoryCall → Prop where
  | check {failure : ε} : Duty.Fails plan serial (.check (.error failure)) failure []
  | unregistered {words : Failure → ε} {demand : Demand} {failure : Failure}
      (missing : demand.Unregistered plan failure) :
      Duty.Fails plan serial (.make words demand) (words failure) []
  | refused {words : Failure → ε} {demand : Demand} {failure : Failure} {call : FactoryCall}
      (called : demand.Calls plan serial call (.error failure)) :
      Duty.Fails plan serial (.make words demand) (words failure) [call]

/-- The calls of a run that fulfils its duties one after another, or fails with the first that fails. -/
inductive Course (plan : Plan) (serial : Nat) (duties : List (Duty ε)) :
    Except ε α → List FactoryCall → Prop where
  | whole {value : α} {calls : List FactoryCall} (fulfilled : Fulfilled plan serial duties calls) :
      Course plan serial duties (.ok value) calls
  | broken {before after : List (Duty ε)} {duty : Duty ε} {failure : ε} {made last : List FactoryCall}
      (divided : duties = before ++ duty :: after)
      (fulfilled : Fulfilled plan serial before made)
      (fails : duty.Fails plan (serial + made.length) failure last) :
      Course plan serial duties (.error failure) (made ++ last)

theorem Fulfilled.append
    {duties more : List (Duty ε)}
    {first second : List FactoryCall}
    (fulfilled : Fulfilled plan serial duties first)
    (others : Fulfilled plan (serial + first.length) more second) :
    Fulfilled plan serial (duties ++ more) (first ++ second) := by
  induction fulfilled with
  | nothing => exact others
  | check rest ih => exact .check (ih others)
  | make called rest ih =>
      apply Fulfilled.make called
      apply ih
      rwa [List.length_cons, ← Nat.add_assoc, Nat.add_right_comm] at others

theorem Fulfilled.told
    {duties : List (Duty ε)}
    (fulfilled : Fulfilled plan serial duties calls)
    (words : ε → ζ) :
    Fulfilled plan serial (duties.map (Duty.told words)) calls := by
  induction fulfilled with
  | nothing => exact .nothing
  | check rest ih => exact .check ih
  | make called rest ih => exact .make called ih

theorem Course.checked
    {duties : List (Duty ε)}
    {result : Except ε α}
    (course : Course plan serial duties result calls) :
    Course plan serial (.check (.ok ()) :: duties) result calls := by
  cases course with
  | whole fulfilled => exact .whole (.check fulfilled)
  | @broken before after duty failed made last divided fulfilled fails =>
      have longer : .check (.ok ()) :: duties = (.check (.ok ()) :: before) ++ duty :: after := by
        rw [divided, List.cons_append]
      exact .broken longer (.check fulfilled) fails

theorem Course.map
    {duties : List (Duty ε)}
    {result : Except ε α}
    (course : Course plan serial duties result calls)
    (change : α → β) :
    Course plan serial duties (result.map change) calls := by
  cases course with
  | whole fulfilled => exact .whole fulfilled
  | broken divided fulfilled fails => exact .broken divided fulfilled fails

/-- A check that fails takes no calls. -/
theorem Course.unchecked
    (failure : ε)
    (duties : List (Duty ε)) :
    Course plan serial (.check (.error failure) :: duties) (.error failure : Except ε α) [] := by
  have broken : Course plan serial (.check (.error failure) :: duties)
      (.error failure : Except ε α) ([] ++ []) :=
    .broken (List.nil_append _).symm .nothing .check
  exact broken

theorem Duty.Fails.told
    {duty : Duty ε}
    {failure : ε}
    (fails : duty.Fails plan serial failure calls)
    (words : ε → ζ) :
    (duty.told words).Fails plan serial (words failure) calls := by
  cases fails with
  | check => exact .check
  | unregistered missing => exact .unregistered missing
  | refused called => exact .refused called

/-! ## Parts of the compiler -/

namespace Assembling

/-- Parts in sequence: the second one runs where the first one has succeeded. -/
theorem bind_eq
    (part : Assembling ε α)
    (next : α → Assembling ε β)
    (assembly : Assembly) :
    (part >>= next) assembly =
      match part assembly with
      | (.ok value, between) => next value between
      | (.error failure, between) => (.error failure, between) := by
  change ExceptT.bind part next assembly = _
  simp only [ExceptT.bind, ExceptT.mk, bind, StateT.bind]
  obtain ⟨result, between⟩ := part assembly
  cases result with
  | ok value => rfl
  | error failure => rfl

end Assembling

/-- A part of the compiler goes through its duties in order, up to the first one that fails. -/
def Performs (plan : Plan) (part : Assembling ε α) (duties : List (Duty ε)) : Prop :=
  ∀ assembly, ∃ calls, (part assembly).2.calls = assembly.calls ++ calls ∧
    Course plan assembly.calls.length duties (part assembly).1 calls

theorem Performs.pure (value : α) : Performs plan (pure value : Assembling ε α) [] := by
  intro assembly
  exact ⟨[], (List.append_nil _).symm, .whole .nothing⟩

theorem Performs.bind
    {part : Assembling ε α}
    {next : α → Assembling ε β}
    {duties more : List (Duty ε)}
    (first : Performs plan part duties)
    (second : ∀ value, Performs plan (next value) more) :
    Performs plan (part >>= next) (duties ++ more) := by
  intro assembly
  obtain ⟨calls, grown, course⟩ := first assembly
  rw [Assembling.bind_eq]
  generalize part assembly = ended at grown course
  obtain ⟨result, between⟩ := ended
  cases course with
  | @whole value calls fulfilled =>
      -- The second part numbers its calls on from where those of the first one end.
      obtain ⟨others, grownAgain, rest⟩ := second value between
      have count : between.calls.length = assembly.calls.length + calls.length := by
        rw [grown, List.length_append]
      rw [count] at rest
      refine ⟨calls ++ others, ?_, ?_⟩
      · rw [grownAgain, grown, List.append_assoc]
      · dsimp only
        generalize (next value between).1 = last at rest
        cases rest with
        | whole fulfilledRest => exact .whole (fulfilled.append fulfilledRest)
        | @broken before after duty failure made last divided fulfilledBefore fails =>
            have longer : duties ++ more = (duties ++ before) ++ duty :: after := by
              rw [divided, ← List.append_assoc]
            rw [Nat.add_assoc, ← List.length_append] at fails
            rw [← List.append_assoc]
            exact .broken longer (fulfilled.append fulfilledBefore) fails
  | @broken before after duty failure made last divided fulfilled fails =>
      have longer : duties ++ more = before ++ duty :: (after ++ more) := by
        rw [divided, List.append_assoc, List.cons_append]
      exact ⟨_, grown, .broken longer fulfilled fails⟩

theorem Performs.explain
    {part : Assembling ε α}
    {duties : List (Duty ε)}
    (performs : Performs plan part duties)
    (words : ε → ζ) :
    Performs plan (Assembling.explain words part) (duties.map (Duty.told words)) := by
  intro assembly
  obtain ⟨calls, grown, course⟩ := performs assembly
  rw [Assembling.explain]
  generalize part assembly = ended at grown course
  obtain ⟨result, between⟩ := ended
  refine ⟨calls, ?_, ?_⟩
  · cases result with
    | ok value => exact grown
    | error failure => exact grown
  · cases course with
    | whole fulfilled => exact .whole (fulfilled.told words)
    | @broken before after duty failure made last divided fulfilled fails =>
        have retold : duties.map (Duty.told words) =
            before.map (Duty.told words) ++ duty.told words :: after.map (Duty.told words) := by
          rw [divided, List.map_append, List.map_cons]
        exact .broken retold (fulfilled.told words) (fails.told words)

theorem Performs.mapM
    {part : α → Assembling ε β}
    {duties : α → List (Duty ε)}
    (each : ∀ item, Performs plan (part item) (duties item))
    (items : List α) :
    Performs plan (items.mapM part) (items.flatMap duties) := by
  induction items with
  | nil => exact Performs.pure []
  | cons item items ih =>
      rw [List.mapM_cons, List.flatMap_cons]
      apply (each item).bind
      intro value
      rw [← List.append_nil (items.flatMap duties)]
      apply ih.bind
      intro values
      exact Performs.pure (value :: values)

/-- What is thrown is a check that fails, whatever would have come behind it. -/
theorem Performs.throw
    (failure : ε)
    (duties : List (Duty ε)) :
    Performs plan (throw failure : Assembling ε α) (.check (.error failure) :: duties) := by
  intro assembly
  exact ⟨[], (List.append_nil _).symm, .unchecked failure duties⟩

/-- A part that runs only where a check succeeds. -/
theorem Performs.guarded
    {part : Assembling ε α}
    {duties : List (Duty ε)}
    (performs : Performs plan part duties)
    (refused : Bool)
    (failure : ε) :
    Performs plan (if refused then MonadExcept.throw failure else part)
      (.check (if refused then .error failure else .ok ()) :: duties) := by
  cases refused with
  | true => exact .throw failure duties
  | false =>
      intro assembly
      obtain ⟨calls, grown, course⟩ := performs assembly
      exact ⟨calls, grown, course.checked⟩

/-- The factory that is found makes a plugin or refuses, and nothing is called where none is found. -/
theorem performs_callFound
    {found : Option (Factory α)}
    {ofTarget : Bool}
    {config : Json}
    {demand : Demand}
    {failure : Failure}
    (called : ∀ factory, found = some factory → ∀ serial,
      demand.Calls plan serial ⟨ofTarget, factory.label, serial, config⟩
        ((factory.make serial config).map fun _ => ()))
    (missing : found = none → demand.Unregistered plan failure) :
    Performs plan (Assembling.callFound found ofTarget config failure) [.make id demand] := by
  intro assembly
  cases found with
  | none =>
      exact ⟨[], (List.append_nil _).symm,
        .broken (List.nil_append _).symm .nothing (.unregistered (missing rfl))⟩
  | some factory =>
      refine ⟨_, rfl, ?_⟩
      have here := called factory rfl assembly.calls.length
      simp only [Assembling.callFound, Option.elim_some, Assembling.call]
      generalize factory.make assembly.calls.length config = outcome at here
      cases outcome with
      | ok plugin => exact .whole (.make here .nothing)
      | error failure => exact .broken (List.nil_append _).symm .nothing (.refused here)

theorem performs_task
    (plan : Plan)
    (type : String)
    (config : Json) :
    Performs plan (Assembling.task plan.registries type config) [.make id (.task type config)] := by
  have found : plan.registries.tasks.find? type = Names.lastUnder type plan.taskFactories := by
    rw [plan.registries_eq]
    exact Names.find?_ofList ..
  rw [Assembling.task_eq, found]
  apply performs_callFound
  · intro factory last serial
    exact .task last
  · intro none
    exact .task ((Names.lastUnder_eq_none_iff ..).mp none)

theorem performs_target
    (plan : Plan)
    (type : String)
    (config : Json) :
    Performs plan (Assembling.target plan.registries type config)
      [.make id (.target type config)] := by
  have found : plan.registries.targets.find? type = Names.lastUnder type plan.targetFactories := by
    rw [plan.registries_eq]
    exact Names.find?_ofList ..
  rw [Assembling.target_eq, found]
  apply performs_callFound
  · intro factory last serial
    exact .target last
  · intro none
    exact .target ((Names.lastUnder_eq_none_iff ..).mp none)

end

namespace Compile

open Application (Plan)
open Definition (Aggregate)

/-! ## The duties of the compiler -/

/-- To make what is asked for. -/
def making (demands : List Demand) : List (Duty Failure) :=
  demands.map (.make id)

/-- A block is checked for its methods before anything is made of it. -/
def handlerDuties (block : Definition.Handler) : List (Duty Failure) :=
  .check ((methods block.methods).map fun _ => ()) :: making block.demands

/-- What there is to do for the blocks of a document, from the given place on. -/
def blockDuties (aggregate : String) (index : Nat) : List Definition.Handler → List (Duty ConfigFailure)
  | [] => []
  | block :: blocks =>
      let label := handlerLabel index block
      .check
          (if block.methods.isEmpty then
            .error (.invalidValue ("aggregate " ++ aggregate ++ " handler " ++ label)
              "at least one method is required")
          else .ok ()) ::
        ((handlerDuties block).map (Duty.told (.aggregate aggregate (some label))) ++
          blockDuties aggregate (index + 1) blocks)

/-- What there is to do for a document: it needs its names, and then come its blocks. -/
def aggregateDuties (spec : Aggregate) : List (Duty ConfigFailure) :=
  .check
      (if spec.name.isEmpty || spec.api.isEmpty then
        .error (.invalidValue "aggregate.spec" "name and apiName are required")
      else .ok ()) ::
    blockDuties spec.name 0 spec.handlers

/-- What there is to do for a home: its schemas are loaded first, and then come its documents. -/
def homeDuties (tree : FileTree) (documents : Home) : List (Duty ConfigFailure) :=
  .check
      ((schemas tree (Path.join documents.path "schemas") .empty
        (documents.schemas.map (·.2.spec))).map fun _ => ()) ::
    (documents.aggregates.map (·.2.spec)).flatMap aggregateDuties

variable {plan : Plan}

theorem workflow_performs (steps : List Definition.Step) :
    Performs plan (workflow plan.registries steps)
      (making ((steps.filter (·.enabled)).map Definition.Step.demand)) := by
  have each (step : Definition.Step) :
      Performs plan
        (do
          let task ← Assembling.task plan.registries step.type step.config
          return {
            name := step.name
            precedence := step.precedence
            taskType := step.type
            description := step.description
            task : Step })
        [.make id step.demand] := by
    apply (performs_task plan step.type step.config).bind
    intro task
    exact .pure _
  have listed : making ((steps.filter (·.enabled)).map Definition.Step.demand) =
      (steps.filter (·.enabled)).flatMap (fun step => [.make id step.demand]) ++ [] := by
    rw [List.append_nil, making, List.map_map, List.map_eq_flatMap]
    rfl
  rw [listed]
  apply (Performs.mapM each _).bind
  intro made
  exact .pure _

theorem target_performs (target : Option Definition.Target) :
    Performs plan (Compile.target plan.registries target)
      (making (target.toList.map Definition.Target.demand)) := by
  cases target with
  | none => exact .pure none
  | some target =>
      apply (performs_target plan target.type target.config).bind
      intro made
      exact .pure _

theorem liftExcept_performs
    {α : Type}
    (result : Except Failure α) :
    Performs plan (handler.liftExcept result) [.check (result.map fun _ => ())] := by
  intro assembly
  refine ⟨[], (List.append_nil _).symm, ?_⟩
  cases result with
  | ok value => exact .whole (.check .nothing)
  | error failure => exact .unchecked failure []

theorem handlerNumber_performs {ε : Type} :
    Performs plan (Assembling.handlerNumber : Assembling ε Nat) [] := by
  intro assembly
  exact ⟨[], (List.append_nil _).symm, .whole .nothing⟩

theorem handler_performs (block : Definition.Handler) :
    Performs plan (handler plan.registries block) (handlerDuties block) := by
  have parts : handlerDuties block =
      [.check ((methods block.methods).map fun _ => ())] ++
        (making ((block.inbound.filter (·.enabled)).map Definition.Step.demand) ++
          (making ((block.outbound.filter (·.enabled)).map Definition.Step.demand) ++
            (making (block.target.toList.map Definition.Target.demand) ++ ([] ++ [])))) := by
    simp only [handlerDuties, Definition.Handler.demands, making, List.map_append, List.append_nil,
      List.cons_append, List.nil_append]
  rw [parts]
  apply (liftExcept_performs _).bind
  intro methods
  apply (workflow_performs _).bind
  intro inbound
  apply (workflow_performs _).bind
  intro outbound
  apply (target_performs _).bind
  intro target
  apply handlerNumber_performs.bind
  intro serial
  exact .pure _

theorem handlers_performs
    (aggregate : String)
    (index : Nat)
    (service : Service)
    (blocks : List Definition.Handler) :
    Performs plan (handlers plan.registries aggregate index service blocks)
      (blockDuties aggregate index blocks) := by
  induction blocks generalizing index service with
  | nil => exact .pure service
  | cons block blocks ih =>
      apply Performs.guarded
      apply ((handler_performs block).explain _).bind
      rintro ⟨methods, made⟩
      exact ih (index + 1) (bind service methods made)

theorem aggregate_performs
    (begun : Option Service)
    (spec : Aggregate) :
    Performs plan (aggregate plan.registries begun spec) (aggregateDuties spec) := by
  apply Performs.guarded
  exact handlers_performs _ _ _ _

theorem aggregates_performs
    (begun : Names Service)
    (specs : List Aggregate) :
    Performs plan (aggregates plan.registries begun specs) (specs.flatMap aggregateDuties) := by
  induction specs generalizing begun with
  | nil => exact .pure begun
  | cons spec specs ih =>
      apply (aggregate_performs _ spec).bind
      intro service
      exact ih _

theorem home_performs
    (tree : FileTree)
    (documents : Home) :
    Performs plan (home tree plan.registries documents) (homeDuties tree documents) := by
  intro assembly
  rw [home, homeDuties]
  cases schemas tree (Path.join documents.path "schemas") .empty (documents.schemas.map (·.2.spec)) with
  | error failure => exact ⟨[], (List.append_nil _).symm, .unchecked failure _⟩
  | ok catalog =>
      have performs : Performs plan
          (aggregates plan.registries [] (documents.aggregates.map (·.2.spec))) _ :=
        aggregates_performs _ _
      obtain ⟨calls, grown, course⟩ := performs assembly
      dsimp only
      generalize aggregates plan.registries [] (documents.aggregates.map (·.2.spec)) assembly = ended
        at grown course
      obtain ⟨result, later⟩ := ended
      cases result with
      | ok services => exact ⟨calls, grown, course.checked.map fun services => (catalog, services)⟩
      | error failure => exact ⟨calls, grown, course.checked.map fun services => (catalog, services)⟩

/-! ## What the duties ask for -/

@[simp]
theorem making_asks (demands : List Demand) :
    (making demands).filterMap Duty.demand? = demands := by
  rw [making, List.filterMap_map]
  exact List.filterMap_some

@[simp]
theorem blockDuties_asks
    (aggregate : String)
    (index : Nat)
    (blocks : List Definition.Handler) :
    (blockDuties aggregate index blocks).filterMap Duty.demand? =
      blocks.flatMap Definition.Handler.demands := by
  induction blocks generalizing index with
  | nil => rfl
  | cons block blocks ih =>
      have told (words : Failure → ConfigFailure) :
          ((handlerDuties block).map (Duty.told words)).filterMap Duty.demand? = block.demands := by
        rw [List.filterMap_map]
        have same : Duty.demand? ∘ Duty.told words = Duty.demand? := funext (Duty.demand?_told words)
        rw [same]
        exact making_asks block.demands
      change List.filterMap Duty.demand? (_ ++ blockDuties aggregate (index + 1) blocks) = _
      rw [List.filterMap_append, told, ih, List.flatMap_cons]

/-- The duties of a home ask for what its documents ask for, in the same order. -/
@[simp]
theorem homeDuties_asks
    (tree : FileTree)
    (documents : Home) :
    (homeDuties tree documents).filterMap Duty.demand? = documents.demands := by
  change ((documents.aggregates.map (·.2.spec)).flatMap aggregateDuties).filterMap Duty.demand? = _
  rw [Home.demands]
  induction documents.aggregates.map (·.2.spec) with
  | nil => rfl
  | cons spec specs ih =>
      rw [List.flatMap_cons, List.filterMap_append, ih, List.flatMap_cons]
      exact congrArg (· ++ _) (blockDuties_asks spec.name 0 spec.handlers)

end Compile

/-! ## One call for each plugin -/

section

open Application (Plan)

variable {α ε : Type} {plan : Plan} {serial : Nat} {calls : List FactoryCall}

/-- One call for each of some demands, in their order, numbered on from the given number. -/
structure Serves (plan : Plan) (serial : Nat) (demands : List Demand) (calls : List FactoryCall) : Prop where
  each : List.Forall₂ (fun demand call => ∃ outcome, demand.Calls plan call.serial call outcome) demands
    calls
  numbered : calls.map (·.serial) = List.range' serial calls.length

theorem Demand.Calls.serial_eq
    {demand : Demand}
    {call : FactoryCall}
    {outcome : Except Failure Unit}
    (called : demand.Calls plan serial call outcome) :
    call.serial = serial := by
  cases called with
  | task last => rfl
  | target last => rfl

theorem Serves.cons
    {demand : Demand}
    {demands : List Demand}
    {call : FactoryCall}
    {outcome : Except Failure Unit}
    (called : demand.Calls plan serial call outcome)
    (others : Serves plan (serial + 1) demands calls) :
    Serves plan serial (demand :: demands) (call :: calls) := by
  have number := called.serial_eq
  constructor
  · apply List.Forall₂.cons _ others.each
    rw [number]
    exact ⟨outcome, called⟩
  · rw [List.map_cons, List.length_cons, List.range'_succ, others.numbered, number]

/-- Duties that are fulfilled serve what they ask for, ahead of what is served behind them. -/
theorem Fulfilled.serves
    {duties : List (Duty ε)}
    {demands : List Demand}
    {others : List FactoryCall}
    (fulfilled : Fulfilled plan serial duties calls)
    (served : Serves plan (serial + calls.length) demands others) :
    Serves plan serial (duties.filterMap Duty.demand? ++ demands) (calls ++ others) := by
  induction fulfilled with
  | nothing => exact served
  | check rest ih => exact ih served
  | make called rest ih =>
      rw [List.length_cons, ← Nat.add_assoc, Nat.add_right_comm] at served
      exact (ih served).cons called

theorem Serves.nil : Serves plan serial [] [] where
  each := .nil
  numbered := rfl

/-- The calls of a run serve all that is asked for, or a first part of it if the run fails. -/
theorem Course.serves
    {duties : List (Duty ε)}
    {result : Except ε α}
    (course : Course plan serial duties result calls) :
    ∃ asked left, duties.filterMap Duty.demand? = asked ++ left ∧ Serves plan serial asked calls ∧
      (∀ value, result = .ok value → left = []) := by
  cases course with
  | whole fulfilled =>
      have served := fulfilled.serves .nil
      rw [List.append_nil, List.append_nil] at served
      exact ⟨_, [], (List.append_nil _).symm, served, fun _ _ => rfl⟩
  | @broken before after duty failure made last divided fulfilled fails =>
      have asks : duties.filterMap Duty.demand? =
          before.filterMap Duty.demand? ++ (duty.demand?.toList ++ after.filterMap Duty.demand?) := by
        rw [divided, List.filterMap_append]
        cases duty with
        | check outcome => rfl
        | make words demand => rfl
      cases fails with
      | check =>
          refine ⟨_, _, asks, ?_, nofun⟩
          rw [← List.append_nil (before.filterMap _)]
          exact fulfilled.serves .nil
      | unregistered missing =>
          refine ⟨_, _, asks, ?_, nofun⟩
          rw [← List.append_nil (before.filterMap _)]
          exact fulfilled.serves .nil
      | refused called =>
          -- The factory that refuses was called as well, for one more of the plugins.
          refine ⟨_, _, asks.trans (List.append_assoc ..).symm, ?_, nofun⟩
          exact fulfilled.serves (.cons called .nil)

/-! ## Configured hubs -/

/-- The calls of a run over the documents of a home, with what came of the run. -/
structure Instantiates
    (plan : Plan) (tree : FileTree) (documents : Home) (serial : Nat)
    (result : Except ConfigFailure Catalog) (calls : List FactoryCall) : Prop where
  /-- The duties are gone through in order; the first that fails ends the run, and its failure is told. -/
  course : Course plan serial (Compile.homeDuties tree documents) result calls
  /-- To make plugins is a duty exactly for what the documents ask for. -/
  asks : (Compile.homeDuties tree documents).filterMap Duty.demand? = documents.demands
  /-- A run that succeeds makes one call for each plugin, in the order of the documents. -/
  whole : ∀ catalog, result = .ok catalog → Serves plan serial documents.demands calls
  /-- A run that fails makes those for a first part of the plugins. -/
  started : ∀ failure, result = .error failure →
    ∃ asked, asked <+: documents.demands ∧ Serves plan serial asked calls

/--
Configuring a hub calls the last factory that was registered for each plugin that the documents ask for, once
and in order, up to the first failure.
-/
theorem Hub.configure_instantiates
    (plan : Plan)
    (hub : Hub)
    (tree : FileTree)
    (documents : Home)
    (assembly : Assembly) :
    ∃ calls,
      (hub.configure tree plan.registries documents assembly).2.calls = assembly.calls ++ calls ∧
        Instantiates plan tree documents assembly.calls.length
          (hub.configure tree plan.registries documents assembly).1.1 calls := by
  have performs : Performs plan _ _ := Compile.home_performs tree documents
  obtain ⟨calls, grown, course⟩ := performs assembly
  have concluded :
      (hub.configure tree plan.registries documents assembly).2 =
          (Compile.home tree plan.registries documents assembly).2 ∧
        (hub.configure tree plan.registries documents assembly).1.1 =
          (Compile.home tree plan.registries documents assembly).1.map Prod.fst := by
    rw [Hub.configure]
    cases Compile.home tree plan.registries documents assembly with
    | mk result later =>
        cases result with
        | ok made => exact ⟨rfl, rfl⟩
        | error failure => exact ⟨rfl, rfl⟩
  have course := course.map Prod.fst
  rw [concluded.1, concluded.2]
  generalize (Compile.home tree plan.registries documents assembly).1.map Prod.fst = result at course
  obtain ⟨asked, left, asks, served, all⟩ := course.serves
  rw [Compile.homeDuties_asks] at asks
  refine ⟨calls, grown, course, Compile.homeDuties_asks tree documents, ?_, ?_⟩
  · intro catalog succeeded
    rw [asks, all catalog succeeded, List.append_nil]
    exact served
  · intro failure failed
    exact ⟨asked, ⟨left, asks.symm⟩, served⟩

/-- The document of a counter: a step of a type that is not registered is switched off. -/
def counterDocument : Definition.AggregateDocument :=
  { (default : Definition.AggregateDocument) with
    spec :=
      { (default : Definition.Aggregate) with
        api := "diner"
        name := "counter"
        handlers :=
          [⟨["GET", "POST"], [{ Definition.Step.blank with type := "till", enabled := false }], [],
            some ⟨"", "noop", .null⟩⟩] } }

-- A block for two methods makes one target, and what is switched off is not made.
example :
    ((Hub.make "diner").configure default ({ name := "diner" } : Plan).registries
      ⟨"", default, [("counter", counterDocument)], []⟩ .start).2.calls =
        [⟨true, "noop", 0, .null⟩] := by
  rfl

end

end RequestHub
