import RequestHub.Proofs.Catalog.Loading
import RequestHub.Proofs.Compile.Services

/-!
# Homes that can be configured

A home compiles only if everything in its documents is supported: every file of a schema can be read,
every aggregate has its names, every handler has methods and knows them, and there is a factory for
every step that is switched on and for every target, which makes a plugin of its configuration.  One
part that is not supported, at whatever depth of the documents, keeps the whole home from compiling.
-/

namespace RequestHub

/-- A registry has a factory for a type, which makes plugins of a configuration. -/
def Registry.Supports {α : Type} (registry : Registry α) (type : String) (config : Json) : Prop :=
  ∃ factory serial plugin, registry.find? type = some factory ∧
    factory.make serial config = .ok plugin

namespace Definition

/-- The registries support the methods, the steps and the target of a handler. -/
structure Handler.Supported (registries : Registries) (spec : Handler) : Prop where
  bound : spec.methods ≠ []
  known : ∀ name ∈ spec.methods, ∃ method, Method.ofString name = .ok method
  inbound : ∀ step ∈ spec.inbound, step.enabled = true →
    registries.tasks.Supports step.type step.config
  outbound : ∀ step ∈ spec.outbound, step.enabled = true →
    registries.tasks.Supports step.type step.config
  target : ∀ target, spec.target = some target →
    registries.targets.Supports target.type target.config

/-- An aggregate has its names, and the registries support its handlers. -/
structure Aggregate.Supported (registries : Registries) (spec : Aggregate) : Prop where
  api : spec.api ≠ ""
  name : spec.name ≠ ""
  handlers : ∀ handler ∈ spec.handlers, handler.Supported registries

end Definition

/-- The files that a home mentions can be read, and the registries support its aggregates. -/
structure Home.Supported (tree : FileTree) (registries : Registries) (documents : Home) : Prop where
  readable : ∀ path list, (path, list) ∈ documents.schemas → ∀ schema ∈ list.spec.schemas,
    ∃ content, tree.read (Path.join (Path.join documents.path "schemas") schema.file) = .ok content
  aggregates : ∀ path document, (path, document) ∈ documents.aggregates →
    document.spec.Supported registries

namespace Assembling

variable {α β ε ζ : Type} {assembly later : Assembly}

theorem ok_of_explain
    {words : ε → ζ} {part : Assembling ε α} {value : α}
    (ended : explain words part assembly = (.ok value, later)) :
    part assembly = (.ok value, later) := by
  unfold explain at ended
  split at ended
  · rename_i succeeded
    cases ended
    exact succeeded
  · cases ended

/-- Of parts that succeed in sequence every one has succeeded. -/
theorem ok_of_mapM
    {part : α → Assembling ε β} {items : List α} {made : List β}
    (ended : items.mapM part assembly = (.ok made, later)) {item : α} (member : item ∈ items) :
    ∃ value before behind, part item before = (.ok value, behind) := by
  induction items generalizing made assembly later with
  | nil => cases member
  | cons head items ih =>
      rw [List.mapM_cons] at ended
      rcases (bind_eq_ok_iff ..).mp ended with ⟨value, between, first, onward⟩
      rcases List.mem_cons.mp member with rfl | rest
      · exact ⟨value, assembly, between, first⟩
      · rcases (bind_eq_ok_iff ..).mp onward with ⟨values, last, tail, -⟩
        exact ih tail rest

/-- The call of a factory that was looked up, or a failure where none was found. -/
def callFound (found : Option (Factory α)) (ofTarget : Bool) (config : Json) (missing : Failure) :
    Assembling Failure α :=
  found.elim (throw missing) fun factory => call ofTarget factory config

theorem task_eq (registries : Registries) (name : String) (config : Json) :
    task registries name config =
      callFound (registries.tasks.find? name) false config (.taskNotRegistered name) := by
  rw [task]
  cases registries.tasks.find? name with
  | none => rfl
  | some factory => rfl

theorem target_eq (registries : Registries) (name : String) (config : Json) :
    target registries name config =
      callFound (registries.targets.find? name) true config (.targetNotRegistered name) := by
  rw [target]
  cases registries.targets.find? name with
  | none => rfl
  | some factory => rfl

theorem supports_of_call
    {registry : Registry α} {type : String} {config : Json} {factory : Factory α} {made : α}
    {ofTarget : Bool} (found : registry.find? type = some factory)
    (called : call ofTarget factory config assembly = (.ok made, later)) :
    registry.Supports type config :=
  ⟨factory, assembly.calls.length, made, found, (Prod.ext_iff.mp called).1⟩

theorem supports_of_task
    {registries : Registries} {type : String} {config : Json} {made : Task}
    (called : task registries type config assembly = (.ok made, later)) :
    registries.tasks.Supports type config := by
  cases found : registries.tasks.find? type with
  | none =>
      rw [task, found] at called
      exact absurd called (throw_ne_ok _ _ _ _)
  | some factory =>
      rw [task, found] at called
      exact supports_of_call found called

theorem supports_of_target
    {registries : Registries} {type : String} {config : Json} {made : Target}
    (called : target registries type config assembly = (.ok made, later)) :
    registries.targets.Supports type config := by
  cases found : registries.targets.find? type with
  | none =>
      rw [target, found] at called
      exact absurd called (throw_ne_ok _ _ _ _)
  | some factory =>
      rw [target, found] at called
      exact supports_of_call found called

end Assembling

namespace Compile

variable {registries : Registries} {assembly later : Assembly}

/-! ## What is supported where compiling succeeds -/

theorem workflow_supported
    {steps : List Definition.Step} {made : Workflow}
    (compiled : workflow registries steps assembly = (.ok made, later)) :
    ∀ step ∈ steps, step.enabled = true → registries.tasks.Supports step.type step.config := by
  intro step member enabled
  rcases (Assembling.bind_eq_ok_iff ..).mp compiled with ⟨_, _, ended, -⟩
  obtain ⟨_, _, _, single⟩ :=
    Assembling.ok_of_mapM ended (List.mem_filter.mpr ⟨member, enabled⟩)
  rcases (Assembling.bind_eq_ok_iff ..).mp single with ⟨_, _, called, -⟩
  exact Assembling.supports_of_task called

theorem methods_known
    {names : List String} {made : List Method} (read : methods names = .ok made) :
    ∀ name ∈ names, ∃ method, Method.ofString name = .ok method := by
  intro name member
  induction names generalizing made with
  | nil => cases member
  | cons head names ih =>
      unfold methods at read ih
      rw [List.mapM_cons] at read
      cases first : Method.ofString head with
      | error failure =>
          rw [first] at read
          cases read
      | ok method =>
          cases rest : names.mapM Method.ofString with
          | error failure =>
              rw [first, rest] at read
              cases read
          | ok others =>
              rcases List.mem_cons.mp member with rfl | tail
              · exact ⟨method, first⟩
              · exact ih rest tail

theorem handler_supported
    {spec : Definition.Handler} {made : List Method × Handler} (bound : spec.methods ≠ [])
    (compiled : handler registries spec assembly = (.ok made, later)) :
    spec.Supported registries := by
  rcases (Assembling.bind_eq_ok_iff ..).mp compiled with ⟨_, _, known, compiled⟩
  rcases (Assembling.bind_eq_ok_iff ..).mp compiled with ⟨_, _, inbound, compiled⟩
  rcases (Assembling.bind_eq_ok_iff ..).mp compiled with ⟨_, _, outbound, compiled⟩
  rcases (Assembling.bind_eq_ok_iff ..).mp compiled with ⟨_, _, answering, -⟩
  refine ⟨bound, methods_known (Prod.ext_iff.mp known).1, workflow_supported inbound,
    workflow_supported outbound, ?_⟩
  intro target present
  rw [present] at answering
  rcases (Assembling.bind_eq_ok_iff ..).mp answering with ⟨_, _, called, -⟩
  exact Assembling.supports_of_target called

theorem handlers_supported
    {aggregate : String} {index : Nat} {service made : Service} {specs : List Definition.Handler}
    (compiled : handlers registries aggregate index service specs assembly = (.ok made, later)) :
    ∀ spec ∈ specs, spec.Supported registries := by
  induction specs generalizing index service assembly with
  | nil => intro spec member; cases member
  | cons head specs ih =>
      simp only [handlers] at compiled
      split at compiled
      · exact absurd compiled (Assembling.throw_ne_ok _ _ _ _)
      · rename_i bound
        rcases (Assembling.bind_eq_ok_iff ..).mp compiled with ⟨_, _, first, onward⟩
        intro spec member
        rcases List.mem_cons.mp member with rfl | rest
        · have bound : spec.methods ≠ [] := fun empty => bound (by simp [empty])
          exact handler_supported bound (Assembling.ok_of_explain first)
        · exact ih onward spec rest

theorem aggregate_supported
    {begun : Option Service} {spec : Definition.Aggregate} {made : Service}
    (compiled : aggregate registries begun spec assembly = (.ok made, later)) :
    spec.Supported registries := by
  rcases aggregate_named compiled with ⟨api, name, -⟩
  refine ⟨api, name, ?_⟩
  unfold aggregate at compiled
  split at compiled
  · exact absurd compiled (Assembling.throw_ne_ok _ _ _ _)
  · exact handlers_supported compiled

theorem aggregates_supported
    {begun made : Names Service} {specs : List Definition.Aggregate}
    (compiled : aggregates registries begun specs assembly = (.ok made, later)) :
    ∀ spec ∈ specs, spec.Supported registries := by
  induction specs generalizing begun assembly with
  | nil => intro spec member; cases member
  | cons head specs ih =>
      simp only [aggregates] at compiled
      rcases (Assembling.bind_eq_ok_iff ..).mp compiled with ⟨_, _, first, onward⟩
      intro spec member
      rcases List.mem_cons.mp member with rfl | rest
      · exact aggregate_supported first
      · exact ih onward spec rest

theorem schemas_readable
    {tree : FileTree} {directory : String} {catalog grown : Catalog}
    {lists : List Definition.Schemas}
    (loaded : schemas tree directory catalog lists = .ok grown) :
    ∀ list ∈ lists, ∀ schema ∈ list.schemas,
      ∃ content, tree.read (Path.join directory schema.file) = .ok content := by
  induction lists generalizing catalog with
  | nil => intro list member; cases member
  | cons head lists ih =>
      simp only [schemas] at loaded
      split at loaded
      · rename_i between first
        intro list member
        rcases List.mem_cons.mp member with rfl | rest
        · exact Catalog.readable_of_loadFrom first
        · exact ih loaded list rest
      · cases loaded

/-- A home that compiles is supported in all of its parts. -/
theorem home_supported
    {tree : FileTree} {documents : Home} {catalog : Catalog} {made : Names Service}
    (compiled : home tree registries documents assembly = (.ok (catalog, made), later)) :
    documents.Supported tree registries := by
  unfold home at compiled
  split at compiled
  · cases compiled
  · rename_i loaded
    split at compiled
    · rename_i ended
      constructor
      · intro path list member
        exact schemas_readable loaded _ (List.mem_map.mpr ⟨_, member, rfl⟩)
      · intro path document member
        exact aggregates_supported ended _ (List.mem_map.mpr ⟨_, member, rfl⟩)
    · cases compiled

end Compile

end RequestHub
