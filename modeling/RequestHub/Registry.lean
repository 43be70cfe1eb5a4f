import RequestHub.Plugin

/-!
# Registries

Documents name plugins by their types.  A registry finds the factory for a type; of two factories that
are registered under one name the later one counts.  While documents are compiled, an `Assembly`
records every factory that is called, whether it makes a plugin or fails.
-/

namespace RequestHub

/-- What makes plugins of one type. -/
structure Factory (α : Type) where
  /-- What the factory is called in the record of its calls. -/
  label : String
  /-- The plugin for a configuration; each plugin made is given a number of its own. -/
  make : (serial : Nat) → (config : Json) → Except Failure α

/-- The factories by the names of their types. -/
abbrev Registry (α : Type) := Names (Factory α)

/-- The factories of tasks and of targets. -/
structure Registries where
  tasks : Registry Task
  targets : Registry Target

namespace Registries

/-- Registries without factories. -/
def empty : Registries := ⟨[], []⟩

instance : Inhabited Registries := ⟨empty⟩

/-- The registries with one more factory of tasks. -/
def withTask (registries : Registries) (name : String) (factory : Factory Task) : Registries :=
  { registries with tasks := Names.insert name factory registries.tasks }

/-- The registries with one more factory of targets. -/
def withTarget (registries : Registries) (name : String) (factory : Factory Target) : Registries :=
  { registries with targets := Names.insert name factory registries.targets }

end Registries

/-- A call of a factory. -/
structure FactoryCall where
  /-- Whether the factory makes targets. -/
  ofTarget : Bool
  /-- What the factory is called. -/
  label : String
  /-- The number of the plugin that was asked for. -/
  serial : Nat
  config : Json
deriving DecidableEq, Inhabited, Repr

/-- What has been assembled so far. -/
structure Assembly where
  /-- The factories called, in order. -/
  calls : List FactoryCall
  /-- How many handlers have been made. -/
  handlers : Nat
deriving DecidableEq, Inhabited, Repr

namespace Assembly

/-- The beginning of an assembly. -/
def start : Assembly := ⟨[], 0⟩

end Assembly

/-- A part of an assembly; its calls count even if it fails. -/
abbrev Assembling (ε α : Type) := ExceptT ε (StateM Assembly) α

namespace Assembling

variable {α ε : Type}

/-- Calls a factory and records the call. -/
def call (ofTarget : Bool) (factory : Factory α) (config : Json) : Assembling Failure α :=
  fun assembly =>
    let serial := assembly.calls.length
    (factory.make serial config,
      { assembly with calls := assembly.calls ++ [⟨ofTarget, factory.label, serial, config⟩] })

/-- The number of a new handler. -/
def handlerNumber : Assembling ε Nat := fun assembly =>
  (.ok assembly.handlers, { assembly with handlers := assembly.handlers + 1 })

/-- The task of a type. -/
def task (registries : Registries) (name : String) (config : Json) : Assembling Failure Task :=
  match registries.tasks.find? name with
  | some factory => call false factory config
  | none => throw (.taskNotRegistered name)

/-- The target of a type. -/
def target (registries : Registries) (name : String) (config : Json) : Assembling Failure Target :=
  match registries.targets.find? name with
  | some factory => call true factory config
  | none => throw (.targetNotRegistered name)

/-- The same part with its failures told in other words. -/
def explain {ζ : Type} (words : ε → ζ) (part : Assembling ε α) : Assembling ζ α := fun assembly =>
  match part assembly with
  | (.ok value, assembly) => (.ok value, assembly)
  | (.error failure, assembly) => (.error (words failure), assembly)

/-! ## What a successful part consists of -/

/-- Parts in sequence succeed exactly if each of them does. -/
theorem bind_eq_ok_iff {β : Type}
    (part : Assembling ε α) (next : α → Assembling ε β) (assembly later : Assembly) (value : β) :
    (part >>= next) assembly = (.ok value, later) ↔
      ∃ first between, part assembly = (.ok first, between) ∧
        next first between = (.ok value, later) := by
  change ExceptT.bind part next assembly = _ ↔ _
  simp only [ExceptT.bind, ExceptT.mk, bind, StateT.bind]
  obtain ⟨result, between⟩ := part assembly
  cases result with
  | ok first =>
      constructor
      · exact fun ended => ⟨first, between, rfl, ended⟩
      · rintro ⟨_, _, ⟨⟩, ended⟩
        exact ended
  | error failure =>
      constructor
      · rintro ⟨⟩
      · rintro ⟨_, _, ⟨⟩, -⟩

@[simp]
theorem pure_eq_ok_iff (made value : α) (assembly later : Assembly) :
    (pure made : Assembling ε α) assembly = (.ok value, later) ↔ made = value ∧ assembly = later := by
  change ((Except.ok made, assembly) : Except ε α × Assembly) = _ ↔ _
  simp

theorem throw_ne_ok (failure : ε) (value : α) (assembly later : Assembly) :
    (throw failure : Assembling ε α) assembly ≠ (.ok value, later) := by
  change ((Except.error failure, assembly) : Except ε α × Assembly) ≠ _
  simp

end Assembling

end RequestHub
