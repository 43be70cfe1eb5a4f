import RequestHub.Proofs.Compile.Services

/-!
# What has been installed in a hub

A hub changes when a service is added to it and when it is configured from a home.  A `Site` is a hub
with the list of all services that these changes have installed in it, in the order in which they came.
The table of the hub is a view of that list: under each key stands the service that came last, and the
keys increase.  `Viewed` says so, every change preserves it, and so it holds after any number of changes.
-/

namespace RequestHub

/-- What is done to a hub while it is in use. -/
inductive Change where
  | add (service : Service)
  | configure (tree : FileTree) (registries : Registries) (home : Home)

/-- The last one of some services, among those that are wanted. -/
def latest (wanted : Service → Bool) (services : List Service) : Option Service :=
  (services.filter wanted).getLast?

@[simp]
theorem latest_append (wanted : Service → Bool) (services more : List Service) :
    latest wanted (services ++ more) = (latest wanted more).or (latest wanted services) := by
  simp [latest, List.filter_append, List.getLast?_append]

@[simp]
theorem latest_singleton (wanted : Service → Bool) (service : Service) :
    latest wanted [service] = if wanted service = true then some service else none := by
  by_cases holds : wanted service = true <;> simp [latest, holds]

@[simp]
theorem latest_isSome_iff (wanted : Service → Bool) (services : List Service) :
    (latest wanted services).isSome = true ↔ ∃ service ∈ services, wanted service = true := by
  simp [latest]

/-- A hub, what has been assembled for it, and the services installed in it, in order. -/
structure Site where
  hub : Hub
  assembly : Assembly
  installed : List Service

namespace Hub

@[simp]
theorem install_services (hub : Hub) (service : Service) :
    (hub.install service).services = Names.insert service.key service hub.services := rfl

/-- A hub answers for a key with the last one of the services installed under it, or as before. -/
@[simp]
theorem find?_installAll (hub : Hub) (services : List Service) (key : String) :
    (hub.installAll services).services.find? key =
      (latest (·.key = key) services).or (hub.services.find? key) := by
  induction services generalizing hub with
  | nil => rfl
  | cons service services ih =>
      change ((hub.install service).installAll services).services.find? key = _
      rw [ih, ← List.singleton_append, latest_append, latest_singleton, Option.or_assoc,
        install_services, Names.find?_insert]
      congr 1
      by_cases same : service.key = key
      · simp [same]
      · simp [same, Ne.symm same]

theorem ordered_installAll
    {hub : Hub} (ordered : hub.services.Ordered) (services : List Service) :
    (hub.installAll services).services.Ordered := by
  induction services generalizing hub with
  | nil => exact ordered
  | cons service services ih => exact ih (Names.ordered_insert ordered)

end Hub

/-- Of the services that are filed one at most has a key, and it stands under the key. -/
theorem Compile.Filed.latest_eq
    {table : Names Service} (filed : Compile.Filed table) (key : String) :
    latest (·.key = key) table.values = table.find? key := by
  induction table with
  | nil => rfl
  | cons pair table ih =>
      rcases pair with ⟨other, held⟩
      have own : held.key = other := filed.keyed List.mem_cons_self
      have rest := ih filed.tail
      change latest (·.key = key) ([held] ++ Names.values table) = _
      rw [latest_append, latest_singleton, rest, Names.find?_cons]
      by_cases same : key = other
      · have alone : Names.find? key table = none := by
          cases found : Names.find? key table with
          | none => rfl
          | some service =>
              have member := (Names.find?_eq_some_iff filed.tail.ordered ..).mp found
              have above := (List.pairwise_cons.mp filed.ordered).1 _ member
              exact absurd (same ▸ above) (String.lt_irrefl key)
        rw [alone, if_pos same]
        simp [own, same]
      · simp [own, same, Ne.symm same]

namespace Compile

/-- The services that a configuration from a home installs; none if it fails. -/
def installed (tree : FileTree) (registries : Registries) (documents : Home) (assembly : Assembly) :
    List Service :=
  match home tree registries documents assembly with
  | (.ok (_, services), _) => services.values
  | (.error _, _) => []

end Compile

namespace Site

/-- A hub in which nothing has been installed. -/
def fresh (application : String) (version : Option String) (assembly : Assembly) : Site where
  hub := { Hub.make application with version }
  assembly
  installed := []

/-- The site after a change. -/
def change (site : Site) : Change → Site
  | .add service =>
      { site with
        hub := (site.hub.addService service).2
        installed := site.installed ++ [service] }
  | .configure tree registries documents =>
      let ((_, hub), assembly) := site.hub.configure tree registries documents site.assembly
      { hub
        assembly
        installed :=
          site.installed ++ Compile.installed tree registries documents site.assembly }

/-- The site after some changes, one after another. -/
def after (site : Site) (changes : List Change) : Site :=
  changes.foldl change site

/-- The table of the hub is a view of what has been installed in it. -/
structure Viewed (site : Site) : Prop where
  find?_eq : ∀ key, site.hub.services.find? key = latest (·.key = key) site.installed
  ordered : site.hub.services.Ordered

/-- For a route the hub finds the service that was installed last under the key of the route. -/
theorem Viewed.resolve_eq {site : Site} (viewed : site.Viewed) (api name : String) :
    site.hub.resolve api name = latest (·.key = routingKey api name) site.installed :=
  viewed.find?_eq _

theorem Viewed.fresh (application : String) (version : Option String) (assembly : Assembly) :
    (Site.fresh application version assembly).Viewed where
  find?_eq _ := rfl
  ordered := List.Pairwise.nil

/-- A configuration installs the services that are compiled from the home. -/
theorem configure_eq (site : Site) (tree : FileTree) (registries : Registries) (documents : Home) :
    (site.change (.configure tree registries documents)).hub =
      site.hub.installAll (Compile.installed tree registries documents site.assembly) := by
  simp only [change, Hub.configure, Compile.installed]
  cases Compile.home tree registries documents site.assembly with
  | mk result later =>
      cases result with
      | ok made => rfl
      | error failure => rfl

/-- Every change adds to what is installed, and its table stays a view of it. -/
theorem Viewed.change
    {site : Site} (viewed : site.Viewed) (change : Change) : (site.change change).Viewed := by
  have installing (services : List Service) :
      ∀ next : Site, next.hub = site.hub.installAll services →
        next.installed = site.installed ++ services → next.Viewed := by
    intro next hub installed
    refine ⟨fun key => ?_, ?_⟩
    · rw [hub, installed, Hub.find?_installAll, latest_append, viewed.find?_eq]
    · rw [hub]
      exact Hub.ordered_installAll viewed.ordered services
  cases change with
  | add service => exact installing [service] _ rfl rfl
  | configure tree registries documents =>
      exact installing _ _ (configure_eq site tree registries documents) rfl

theorem Viewed.after
    {site : Site} (viewed : site.Viewed) (changes : List Change) : (site.after changes).Viewed := by
  induction changes generalizing site with
  | nil => exact viewed
  | cons change changes ih => exact ih (viewed.change change)

end Site

end RequestHub
