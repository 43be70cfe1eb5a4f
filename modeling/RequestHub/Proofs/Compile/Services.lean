import RequestHub.Compile

/-!
# The services of a home

Documents compile to a table of services.  `Filed` says how the services stand in it: in the order of
the keys, each under its own key, and none without the names that make up the key.  The keys are those
of the documents, and what stands under them depends on nothing that any hub holds.
-/

namespace RequestHub

namespace Definition

/-- The key of the service to which an aggregate belongs. -/
def Aggregate.key (spec : Aggregate) : String :=
  routingKey spec.api spec.name

end Definition

/-- The keys of the services that the documents of a home describe. -/
def Home.keys (home : Home) : List String :=
  home.aggregates.map (·.2.spec.key)

namespace Compile

variable {registries : Registries} {assembly later : Assembly}

/-! ## Handlers leave the names of a service -/

theorem bind_named
    (service : Service) (methods : List Method) (handler : Handler) :
    (bind service methods handler).api = service.api ∧
      (bind service methods handler).name = service.name := by
  induction methods generalizing service with
  | nil => exact ⟨rfl, rfl⟩
  | cons method methods ih => exact ih (service.setHandler method handler)

theorem handlers_named
    {aggregate : String} {index : Nat} {service made : Service} {specs : List Definition.Handler}
    (compiled : handlers registries aggregate index service specs assembly = (.ok made, later)) :
    made.api = service.api ∧ made.name = service.name := by
  induction specs generalizing index service assembly with
  | nil =>
      rcases (Assembling.pure_eq_ok_iff ..).mp compiled with ⟨rfl, -⟩
      exact ⟨rfl, rfl⟩
  | cons spec specs ih =>
      simp only [handlers] at compiled
      split at compiled
      · exact absurd compiled (Assembling.throw_ne_ok _ _ _ _)
      · obtain ⟨⟨methods, handler⟩, between, -, onward⟩ :=
          (Assembling.bind_eq_ok_iff ..).mp compiled
        rcases ih onward with ⟨api, name⟩
        rcases bind_named service methods handler with ⟨sameApi, sameName⟩
        exact ⟨api.trans sameApi, name.trans sameName⟩

/-- An aggregate compiles only with both of its names, and leaves those of a service begun before. -/
theorem aggregate_named
    {begun : Option Service} {spec : Definition.Aggregate} {made : Service}
    (compiled : aggregate registries begun spec assembly = (.ok made, later)) :
    spec.api ≠ "" ∧ spec.name ≠ "" ∧
      made.api = (begun.getD (Service.make spec.api spec.name)).api ∧
      made.name = (begun.getD (Service.make spec.api spec.name)).name := by
  unfold aggregate at compiled
  split at compiled
  · exact absurd compiled (Assembling.throw_ne_ok _ _ _ _)
  · rename_i named
    simp only [Bool.or_eq_true, String.isEmpty_iff, not_or] at named
    let started := describe spec (begun.getD (Service.make spec.api spec.name))
    have kept : made.api = started.api ∧ made.name = started.name := handlers_named compiled
    exact ⟨named.2, named.1, kept⟩

/-! ## Services in their places -/

/-- Services stand in the order of their keys, each under its own, and all have both of their names. -/
structure Filed (table : Names Service) : Prop where
  ordered : table.Ordered
  keyed : ∀ {key service}, (key, service) ∈ table → service.key = key
  named : ∀ {key service}, (key, service) ∈ table → service.api ≠ "" ∧ service.name ≠ ""

theorem Filed.nil : Filed [] where
  ordered := List.Pairwise.nil
  keyed member := nomatch member
  named member := nomatch member

theorem Filed.tail
    {key : String} {service : Service} {table : Names Service}
    (filed : Filed ((key, service) :: table)) : Filed table where
  ordered := (List.pairwise_cons.mp filed.ordered).2
  keyed member := filed.keyed (List.mem_cons_of_mem _ member)
  named member := filed.named (List.mem_cons_of_mem _ member)

theorem Filed.insert
    {table : Names Service} {key : String} {service : Service}
    (filed : Filed table) (keyed : service.key = key)
    (named : service.api ≠ "" ∧ service.name ≠ "") :
    Filed (Names.insert key service table) where
  ordered := Names.ordered_insert filed.ordered
  keyed member := by
    rcases Names.mem_insert member with same | held
    · cases same
      exact keyed
    · exact filed.keyed held
  named member := by
    rcases Names.mem_insert member with same | held
    · cases same
      exact named
    · exact filed.named held

/-- What an aggregate makes of the service that was begun under its key can be filed under the key. -/
theorem Filed.aggregate
    {table : Names Service} {spec : Definition.Aggregate} {made : Service}
    (filed : Filed table)
    (compiled : aggregate registries (table.find? spec.key) spec assembly = (.ok made, later)) :
    Filed (Names.insert spec.key made table) := by
  rcases aggregate_named compiled with ⟨api, name, sameApi, sameName⟩
  cases begun : table.find? spec.key with
  | none =>
      simp only [begun, Option.getD_none, Service.make] at sameApi sameName
      refine filed.insert ?_ ⟨sameApi ▸ api, sameName ▸ name⟩
      rw [Service.key, sameApi, sameName, Definition.Aggregate.key]
  | some service =>
      simp only [begun, Option.getD_some] at sameApi sameName
      have member := (Names.find?_eq_some_iff filed.ordered ..).mp begun
      apply filed.insert
      · rw [← filed.keyed member, Service.key, sameApi, sameName, Service.key]
      · rw [sameApi, sameName]
        exact filed.named member

/-- Compiling files the services of the aggregates, under their keys, beside those filed before. -/
theorem aggregates_filed
    {begun made : Names Service} {specs : List Definition.Aggregate}
    (filed : Filed begun)
    (compiled : aggregates registries begun specs assembly = (.ok made, later)) :
    Filed made ∧ ∀ key, made.contains key = true ↔
      begun.contains key = true ∨ key ∈ specs.map Definition.Aggregate.key := by
  induction specs generalizing begun assembly with
  | nil =>
      rcases (Assembling.pure_eq_ok_iff ..).mp compiled with ⟨rfl, -⟩
      exact ⟨filed, by simp⟩
  | cons spec specs ih =>
      simp only [aggregates] at compiled
      rcases (Assembling.bind_eq_ok_iff ..).mp compiled with ⟨service, between, first, onward⟩
      rcases ih (filed.aggregate first) onward with ⟨filedMade, keys⟩
      refine ⟨filedMade, fun key => ?_⟩
      rw [keys, Names.contains_insert, List.map_cons, List.mem_cons, or_assoc]
      exact or_left_comm

/-- A home compiles to services that stand under the keys of its documents, and under no others. -/
theorem home_filed
    {tree : FileTree} {documents : Home} {catalog : Catalog} {made : Names Service}
    (compiled : home tree registries documents assembly = (.ok (catalog, made), later)) :
    Filed made ∧ ∀ key, made.contains key = true ↔ key ∈ documents.keys := by
  unfold home at compiled
  split at compiled
  · cases compiled
  · split at compiled
    · rename_i services between ended
      cases compiled
      rcases aggregates_filed Filed.nil ended with ⟨filed, keys⟩
      refine ⟨filed, fun key => ?_⟩
      rw [keys, Home.keys, List.map_map]
      simp [Names.contains]
    · cases compiled

end Compile

end RequestHub
