import RequestHub.Proofs.Compile.Support
import RequestHub.Proofs.Hub.Installed

/-!
# The table of a hub

The table that routes requests, after any sequence of additions and configurations.  `Tabled` says how
it answers for what has been installed, and what the next change of either kind will do to it.  Additions
and configurations that succeed replace what stands under their keys as a whole; a configuration that
fails, wherever in its documents it does, replaces nothing.
-/

namespace RequestHub

namespace Hub

variable {tree : FileTree} {registries : Registries} {documents : Home} {assembly later : Assembly}
  {hub grown : Hub} {catalog : Catalog} {failure : ConfigFailure}

/-- A configuration succeeds exactly if the home compiles, and installs what is compiled. -/
theorem configure_eq_ok_iff :
    hub.configure tree registries documents assembly = ((.ok catalog, grown), later) ↔
      ∃ services,
        Compile.home tree registries documents assembly = (.ok (catalog, services), later) ∧
          grown = hub.installAll services.values := by
  unfold configure
  split
  · rename_i ended
    constructor
    · rintro ⟨⟩
      exact ⟨_, ended, rfl⟩
    · rintro ⟨_, compiled, rfl⟩
      cases ended.symm.trans compiled
      rfl
  · rename_i ended
    constructor
    · rintro ⟨⟩
    · rintro ⟨_, compiled, -⟩
      cases ended.symm.trans compiled

theorem eq_of_configure_eq_error
    (failed : hub.configure tree registries documents assembly = ((.error failure, grown), later)) :
    grown = hub := by
  unfold configure at failed
  split at failed
  · cases failed
  · cases failed
    rfl

/-- A home that is not supported in all of its parts leaves a hub as it was. -/
theorem configure_of_not_supported (unsupported : ¬ documents.Supported tree registries) :
    ∃ failure later,
      hub.configure tree registries documents assembly = ((.error failure, hub), later) := by
  unfold configure
  split
  · rename_i ended
    exact absurd (Compile.home_supported ended) unsupported
  · exact ⟨_, _, rfl⟩

/-- Behind a configuration a hub answers for the keys of the documents with what was compiled. -/
theorem resolve_configured
    {services : Names Service} (filed : Compile.Filed services) (api name : String) :
    (hub.installAll services.values).resolve api name =
      (services.find? (routingKey api name)).or (hub.resolve api name) := by
  rw [resolve, find?_installAll, filed.latest_eq, resolve]

end Hub

namespace Site

/-- How the table of a hub answers, and what the next change does to it. -/
structure Tabled (site : Site) : Prop where
  /-- For a route the hub finds the service that was installed last under the key of the route. -/
  resolve_eq : ∀ api name,
    site.hub.resolve api name = latest (·.key = routingKey api name) site.installed
  keys_increase : site.hub.keys.Pairwise (· < ·)
  keys_counted : site.hub.keys.length = site.hub.size
  mem_keys_iff : ∀ key, key ∈ site.hub.keys ↔ ∃ service ∈ site.installed, service.key = key
  /-- An addition gives back the service that it replaces, and replaces no other. -/
  added : ∀ service,
    (site.hub.addService service).1 = site.hub.resolve service.api service.name ∧
      ∀ api name, (site.hub.addService service).2.resolve api name =
        if routingKey api name = service.key then some service else site.hub.resolve api name
  failed : ∀ {tree registries documents failure hub later},
    site.hub.configure tree registries documents site.assembly = ((.error failure, hub), later) →
    hub = site.hub
  /-- One part of the documents that is not supported makes the whole configuration fail. -/
  refused : ∀ {tree registries documents}, ¬ documents.Supported tree registries →
    ∃ failure later,
      site.hub.configure tree registries documents site.assembly =
        ((.error failure, site.hub), later)
  /-- Under the keys of its documents a configuration leaves nothing of what any hub held before. -/
  replaced : ∀ {tree registries documents catalog hub later},
    site.hub.configure tree registries documents site.assembly = ((.ok catalog, hub), later) →
    ∀ api name, routingKey api name ∈ documents.keys →
      ∃ service, service.key = routingKey api name ∧ hub.resolve api name = some service ∧
        ∀ other : Hub,
          (other.configure tree registries documents site.assembly).1.2.resolve api name =
            some service
  kept : ∀ {tree registries documents catalog hub later},
    site.hub.configure tree registries documents site.assembly = ((.ok catalog, hub), later) →
    ∀ api name, routingKey api name ∉ documents.keys →
      hub.resolve api name = site.hub.resolve api name

/-- After any changes a hub answers from its table as has been installed in it, and goes on to do so. -/
theorem tabled_after
    (application : String) (version : Option String) (assembly : Assembly) (changes : List Change) :
    ((Site.fresh application version assembly).after changes).Tabled := by
  have viewed := (Viewed.fresh application version assembly).after changes
  generalize (Site.fresh application version assembly).after changes = site at viewed
  exact {
    resolve_eq := viewed.resolve_eq
    keys_increase := List.pairwise_map.mpr viewed.ordered
    keys_counted := List.length_map ..
    mem_keys_iff := by
      intro key
      rw [Hub.keys, Names.mem_keys_iff, Names.contains, viewed.find?_eq, latest_isSome_iff]
      simp
    added := fun service => ⟨rfl, fun api name => Hub.resolve_install ..⟩
    failed := Hub.eq_of_configure_eq_error
    refused := Hub.configure_of_not_supported
    replaced := by
      intro tree registries documents catalog hub later configured api name member
      rcases Hub.configure_eq_ok_iff.mp configured with ⟨services, compiled, rfl⟩
      rcases Compile.home_filed compiled with ⟨filed, keys⟩
      rcases Option.isSome_iff_exists.mp ((keys _).mpr member) with ⟨service, found⟩
      refine ⟨service, ?_, ?_, ?_⟩
      · exact filed.keyed ((Names.find?_eq_some_iff filed.ordered ..).mp found)
      · rw [Hub.resolve_configured filed, found, Option.some_or]
      · intro other
        rw [Hub.configure_eq_ok_iff.mpr ⟨services, compiled, rfl⟩, Hub.resolve_configured filed,
          found, Option.some_or]
    kept := by
      intro tree registries documents catalog hub later configured api name missing
      rcases Hub.configure_eq_ok_iff.mp configured with ⟨services, compiled, rfl⟩
      rcases Compile.home_filed compiled with ⟨filed, keys⟩
      have absent : services.find? (routingKey api name) = none := by
        have unfiled := mt (keys _).mp missing
        simpa [Names.contains] using unfiled
      rw [Hub.resolve_configured filed, absent, Option.none_or] }

end Site

end RequestHub
