import Mathlib.Data.List.Dedup
import RequestHub.Proofs.Hub.Table
import RequestHub.Proofs.Names
import RequestHub.Proofs.Route.Key
import RequestHub.Proofs.Text.Joining

/-!
# Documents that make a service together

Every document of an aggregate is compiled on top of what was begun under its key.  `Composes` follows the
documents one by one and keeps with each service the documents of which it was made; without them its
services are those that are compiled.  So two documents make a service together exactly if their keys are
the same.

A key joins two names with a slash, and a name may have slashes of its own.  Keys are the same if the names
agree up to letter case, or if the names overlap: the interface of one document goes on with segments with
which the name of the other one begins.
-/

namespace RequestHub

/-! ## Names joined by a slash -/

namespace Definition.Aggregate

open Text

/-- The names of two documents agree up to letter case, each on its own. -/
def Alike (left right : Aggregate) : Prop :=
  lower left.api = lower right.api ∧ lower left.name = lower right.name

instance (left right : Aggregate) : Decidable (left.Alike right) :=
  inferInstanceAs (Decidable (_ ∧ _))

/-- The interface of the second document goes on with segments that the name of the first begins with. -/
def Extends (left right : Aggregate) : Prop :=
  ∃ middle, lower right.api = lower left.api ++ "/" ++ middle ∧
    lower left.name = middle ++ "/" ++ lower right.name

/-- The names of two documents overlap. -/
def Overlaps (left right : Aggregate) : Prop :=
  left.Extends right ∨ right.Extends left

theorem toList_slash : "/".toList = ['/'] := rfl

/-- Documents have one key exactly if their names agree or overlap. -/
theorem key_eq_iff (left right : Aggregate) :
    left.key = right.key ↔ left.Alike right ∨ left.Overlaps right := by
  have joined (spec : Aggregate) : spec.key = lower spec.api ++ "/" ++ lower spec.name := by
    rw [← String.toList_inj, toList_joined toList_slash]
    exact toList_routingKey spec.api spec.name
  rw [joined, joined]
  exact joined_eq_joined_iff toList_slash ..

/-- Names do not overlap where neither interface has a slash, or neither name. -/
theorem not_overlaps_of_whole
    {left right : Aggregate}
    (whole : Whole left.api ∧ Whole right.api ∨ Whole left.name ∧ Whole right.name) :
    ¬ left.Overlaps right := by
  simp only [← whole_lower_iff left.api, ← whole_lower_iff right.api, ← whole_lower_iff left.name,
    ← whole_lower_iff right.name] at whole
  exact not_overlap_of_unmarked toList_slash whole

end Definition.Aggregate

/-! ## The documents of a service -/

namespace Compile

open Definition (Aggregate)

/-- A service, and the documents of which it was made, in order. -/
structure Composed where
  service : Service
  sources : List Aggregate

/-- The services of a table alone. -/
def services (table : Names Composed) : Names Service :=
  table.map fun pair => (pair.1, pair.2.service)

/-- The documents of the service under a key, none if there is no such service. -/
def sourcesOf (table : Names Composed) (key : String) : List Aggregate :=
  ((table.find? key).map Composed.sources).getD []

/-- Documents that are compiled one by one, each on top of what was begun under its key. -/
inductive Composes (registries : Registries) :
    List Aggregate → Names Composed × Assembly → Names Composed × Assembly → Prop where
  | finished {here : Names Composed × Assembly} : Composes registries [] here here
  | compiled {spec : Aggregate} {specs : List Aggregate} {begun : Names Composed}
      {assembly between : Assembly} {made : Service} {last : Names Composed × Assembly}
      (ended : aggregate registries ((begun.find? spec.key).map Composed.service) spec assembly =
        (.ok made, between))
      (others : Composes registries specs
        (Names.insert spec.key ⟨made, sourcesOf begun spec.key ++ [spec]⟩ begun, between) last) :
      Composes registries (spec :: specs) (begun, assembly) last

variable {registries : Registries}

/-- Without their documents the services that are composed are the services that are compiled. -/
theorem aggregates_eq_ok_iff
    {specs : List Aggregate} {begun : Names Composed} {made : Names Service}
    {assembly later : Assembly} :
    aggregates registries (services begun) specs assembly = (.ok made, later) ↔
      ∃ composed, Composes registries specs (begun, assembly) (composed, later) ∧
        made = services composed := by
  induction specs generalizing begun assembly with
  | nil =>
      refine (Assembling.pure_eq_ok_iff ..).trans ⟨?_, ?_⟩
      · rintro ⟨rfl, rfl⟩
        exact ⟨begun, .finished, rfl⟩
      · rintro ⟨_, ⟨⟩, rfl⟩
        exact ⟨rfl, rfl⟩
  | cons spec specs ih =>
      -- Finding and inserting among the services is finding and inserting in the table.
      have found : Names.find? (routingKey spec.api spec.name) (services begun) =
          (begun.find? spec.key).map Composed.service :=
        Names.find?_map Composed.service begun spec.key
      have inserted (service : Service) :
          Names.insert (routingKey spec.api spec.name) service (services begun) =
            services (Names.insert spec.key ⟨service, sourcesOf begun spec.key ++ [spec]⟩ begun) :=
        (Names.map_insert Composed.service spec.key ⟨service, sourcesOf begun spec.key ++ [spec]⟩
          begun).symm
      simp only [aggregates, Assembling.bind_eq_ok_iff, found, inserted, ih]
      constructor
      · rintro ⟨service, between, ended, composed, others, rfl⟩
        exact ⟨composed, .compiled ended others, rfl⟩
      · rintro ⟨composed, composes, rfl⟩
        cases composes with
        | compiled ended others => exact ⟨_, _, ended, composed, others, rfl⟩

/-- To what was made of other documents come those with the key, in their order. -/
theorem Composes.sourcesOf_eq
    {specs : List Aggregate} {here last : Names Composed × Assembly}
    (composes : Composes registries specs here last) (key : String) :
    sourcesOf last.1 key = sourcesOf here.1 key ++ specs.filter (·.key = key) := by
  induction composes with
  | finished => simp
  | @compiled spec specs begun _ _ made _ _ _ ih =>
      -- A document stands behind those compiled before it and ahead of the others, or is not there.
      rw [ih, sourcesOf, Names.find?_insert]
      by_cases same : spec.key = key
      · simp [same]
      · simp [same, Ne.symm same, sourcesOf]

theorem Composes.filed
    {specs : List Aggregate} {assembly later : Assembly} {composed : Names Composed}
    (composes : Composes registries specs ([], assembly) (composed, later)) :
    Filed (services composed) ∧
      ∀ key, (services composed).contains key = true ↔ key ∈ specs.map Aggregate.key := by
  have compiled : aggregates registries [] specs assembly = (.ok (services composed), later) :=
    aggregates_eq_ok_iff.mpr ⟨composed, composes, rfl⟩
  obtain ⟨filed, keys⟩ := aggregates_filed Filed.nil compiled
  exact ⟨filed, fun key => by simpa [Names.contains] using keys key⟩

/-- A service was made of exactly the documents that have its key. -/
theorem Composes.sources_eq
    {specs : List Aggregate} {assembly later : Assembly} {composed : Names Composed}
    (composes : Composes registries specs ([], assembly) (composed, later))
    {key : String} {made : Composed} (found : composed.find? key = some made) :
    made.sources = specs.filter (·.key = key) := by
  have sources := composes.sourcesOf_eq key
  simpa [sourcesOf, found] using sources

theorem Composes.exists_of_mem
    {specs : List Aggregate} {assembly later : Assembly} {composed : Names Composed}
    (composes : Composes registries specs ([], assembly) (composed, later))
    {spec : Aggregate} (member : spec ∈ specs) :
    ∃ made, composed.find? spec.key = some made ∧
      (services composed).find? spec.key = some made.service := by
  have has := (composes.filed.2 spec.key).mpr (List.mem_map_of_mem member)
  have mapped := Names.find?_map Composed.service composed spec.key
  change (services composed).find? spec.key = _ at mapped
  rw [Names.contains, mapped, Option.isSome_map] at has
  obtain ⟨made, found⟩ := Option.isSome_iff_exists.mp has
  exact ⟨made, found, by rw [mapped, found]; rfl⟩

/-- Two documents are among those of which one service was made. -/
def Together (table : Names Composed) (left right : Aggregate) : Prop :=
  ∃ key made, table.find? key = some made ∧ left ∈ made.sources ∧ right ∈ made.sources

/-- Documents make a service together exactly if they have one key. -/
theorem Composes.together_iff
    {specs : List Aggregate} {assembly later : Assembly} {composed : Names Composed}
    (composes : Composes registries specs ([], assembly) (composed, later))
    {left right : Aggregate} (first : left ∈ specs) (second : right ∈ specs) :
    Together composed left right ↔ left.key = right.key := by
  constructor
  · rintro ⟨key, made, found, here, there⟩
    rw [composes.sources_eq found, List.mem_filter, decide_eq_true_iff] at here there
    exact here.2.trans there.2.symm
  · intro same
    obtain ⟨made, found, -⟩ := composes.exists_of_mem first
    refine ⟨left.key, made, found, ?_, ?_⟩
    · rw [composes.sources_eq found, List.mem_filter, decide_eq_true_iff]
      exact ⟨first, rfl⟩
    · rw [composes.sources_eq found, List.mem_filter, decide_eq_true_iff]
      exact ⟨second, same.symm⟩

end Compile

/-! ## Configured hubs -/

namespace Hub

open Definition (Aggregate)

/-- A hub without services holds the services that are installed in it as they are filed. -/
theorem services_installAll
    {hub : Hub} (empty : hub.services = []) {table : Names Service}
    (filed : Compile.Filed table) : (hub.installAll table.values).services = table := by
  -- A service is installed under its own key, which is the key that it is filed under.
  have folded (rest : Names Service)
      (keyed : ∀ key service, (key, service) ∈ rest → service.key = key) (grown : Hub) :
      (grown.installAll rest.values).services =
        rest.foldl (fun held pair => Names.insert pair.1 pair.2 held) grown.services := by
    induction rest generalizing grown with
    | nil => rfl
    | cons pair rest ih =>
        obtain ⟨key, service⟩ := pair
        obtain rfl := keyed key service List.mem_cons_self
        exact ih (fun key service member => keyed key service (List.mem_cons_of_mem _ member))
          (grown.install service)
  rw [folded table (fun key service => filed.keyed) hub, empty]
  exact Names.ofList_of_ordered filed.ordered

variable {tree : FileTree} {registries : Registries} {documents : Home} {assembly later : Assembly}
  {hub grown : Hub} {catalog : Catalog}

/-- A configuration installs services that are composed of the documents of the home. -/
theorem composed_of_configure
    (configured : hub.configure tree registries documents assembly = ((.ok catalog, grown), later)) :
    ∃ composed,
      Compile.Composes registries (documents.aggregates.map (·.2.spec)) ([], assembly)
          (composed, later) ∧
        grown = hub.installAll (Compile.services composed).values := by
  obtain ⟨made, compiled, rfl⟩ := configure_eq_ok_iff.mp configured
  unfold Compile.home at compiled
  split at compiled
  · cases compiled
  · split at compiled
    · rename_i ended
      cases compiled
      have fromNothing : Compile.aggregates registries (Compile.services [])
          (documents.aggregates.map (·.2.spec)) assembly = (.ok made, later) := ended
      obtain ⟨composed, composes, rfl⟩ := Compile.aggregates_eq_ok_iff.mp fromNothing
      exact ⟨composed, composes, rfl⟩
    · cases compiled

/-- A hub that was empty has as many services as there are keys. -/
theorem size_installAll
    {specs : List Aggregate} {composed : Names Compile.Composed}
    (composes : Compile.Composes registries specs ([], assembly) (composed, later))
    (empty : hub.services = []) :
    (hub.installAll (Compile.services composed).values).size =
      (specs.map Aggregate.key).dedup.length := by
  obtain ⟨filed, keys⟩ := composes.filed
  rw [size, services_installAll empty filed, ← List.length_map (f := (·.1))]
  -- Neither side has a key twice, and both have the same ones.
  refine ((List.perm_ext_iff_of_nodup ?_ (List.nodup_dedup _)).mpr fun key => ?_).length_eq
  · exact List.pairwise_map.mpr (filed.ordered.imp String.ne_of_lt)
  · rw [List.mem_dedup, ← keys]
    exact Names.mem_keys_iff key _

/-- What is true of a hub that was configured from the documents of some aggregates. -/
structure ConfiguredFrom
    (hub grown : Hub) (registries : Registries) (specs : List Aggregate)
    (assembly later : Assembly) (composed : Names Compile.Composed) : Prop where
  composes : Compile.Composes registries specs ([], assembly) (composed, later)
  /-- For the names of a document the hub finds the service that was made of it among others. -/
  resolve_eq : ∀ spec ∈ specs, ∃ made, composed.find? spec.key = some made ∧
    spec ∈ made.sources ∧ grown.resolve spec.api spec.name = some made.service
  /-- Documents make a service together exactly if their names agree, each on its own, or overlap. -/
  together_iff : ∀ left ∈ specs, ∀ right ∈ specs,
    (Compile.Together composed left right ↔ left.Alike right ∨ left.Overlaps right)
  /-- Where neither interface has a slash, or neither name, only documents whose names agree do. -/
  together_iff_alike : ∀ left ∈ specs, ∀ right ∈ specs,
    (Text.Whole left.api ∧ Text.Whole right.api ∨ Text.Whole left.name ∧ Text.Whole right.name) →
      (Compile.Together composed left right ↔ left.Alike right)
  /-- In a hub that was empty there are as many services as there are keys. -/
  size_eq : hub.services = [] → grown.size = (specs.map Aggregate.key).dedup.length
  /-- Two documents make two services, unless their names agree or overlap. -/
  size_eq_two_iff : ∀ {left right}, specs = [left, right] → hub.services = [] →
    (grown.size = 2 ↔ ¬ (left.Alike right ∨ left.Overlaps right))

/-- A hub that is configured has the services that the documents make together by their names. -/
theorem configure_composes
    (configured : hub.configure tree registries documents assembly = ((.ok catalog, grown), later)) :
    ∃ composed, hub.ConfiguredFrom grown registries (documents.aggregates.map (·.2.spec)) assembly
      later composed := by
  obtain ⟨composed, composes, rfl⟩ := composed_of_configure configured
  generalize documents.aggregates.map (·.2.spec) = specs at composes
  have together (left : Aggregate) (first : left ∈ specs) (right : Aggregate)
      (second : right ∈ specs) :
      Compile.Together composed left right ↔ left.Alike right ∨ left.Overlaps right :=
    (composes.together_iff first second).trans (left.key_eq_iff right)
  refine ⟨composed, composes, ?_, together, ?_, size_installAll composes, ?_⟩
  · intro spec member
    obtain ⟨made, found, filedAs⟩ := composes.exists_of_mem member
    refine ⟨made, found, ?_, ?_⟩
    · rw [composes.sources_eq found, List.mem_filter, decide_eq_true_iff]
      exact ⟨member, rfl⟩
    · rw [resolve_configured composes.filed.1]
      exact (congrArg (Option.or · _) filedAs).trans (Option.some_or ..)
  · intro left first right second whole
    rw [together left first right second]
    exact or_iff_left (Aggregate.not_overlaps_of_whole whole)
  · rintro left right rfl empty
    rw [size_installAll composes empty, ← left.key_eq_iff right]
    by_cases same : left.key = right.key <;> simp [same]

/-- The document of an aggregate with one handler, which has neither steps nor a target. -/
def sketch (api name method : String) : Definition.AggregateDocument :=
  { (default : Definition.AggregateDocument) with
    spec := { (default : Aggregate) with api, name, handlers := [⟨[method], [], [], none⟩] } }

/-- A home with two documents of aggregates. -/
def homeOf (first second : Definition.AggregateDocument) : Home where
  path := ""
  hub := default
  aggregates := [("first", first), ("second", second)]
  schemas := []

/-- Documents whose names differ in letter case only make one service. -/
theorem configure_composes_pantry :
    ∃ grown later composed,
      (Hub.make "diner").configure default default
          (homeOf (sketch "Kitchen" "pantry" "GET") (sketch "kitchen" "Pantry" "POST")) .start =
        ((.ok .empty, grown), later) ∧
      (Hub.make "diner").ConfiguredFrom grown default
        [(sketch "Kitchen" "pantry" "GET").spec, (sketch "kitchen" "Pantry" "POST").spec] .start
        later composed ∧
      Compile.Together composed (sketch "Kitchen" "pantry" "GET").spec
        (sketch "kitchen" "Pantry" "POST").spec := by
  have configured : ∃ grown later,
      (Hub.make "diner").configure default default
          (homeOf (sketch "Kitchen" "pantry" "GET") (sketch "kitchen" "Pantry" "POST")) .start =
        ((.ok .empty, grown), later) := ⟨_, _, rfl⟩
  obtain ⟨grown, later, configured⟩ := configured
  obtain ⟨composed, from_documents⟩ := configure_composes configured
  refine ⟨grown, later, composed, configured, from_documents, ?_⟩
  refine (from_documents.together_iff _ List.mem_cons_self _
    (List.mem_cons_of_mem _ List.mem_cons_self)).mpr (Or.inl ?_)
  decide

/-- Documents with different interfaces and different names make one service where the names overlap. -/
theorem shelf_of_two_pantries :
    ∃ grown later composed,
      (Hub.make "diner").configure default default
          (homeOf (sketch "kitchen/pantry" "shelf" "GET") (sketch "kitchen" "pantry/shelf" "POST"))
          .start =
        ((.ok .empty, grown), later) ∧
      Compile.Composes default
        [(sketch "kitchen/pantry" "shelf" "GET").spec, (sketch "kitchen" "pantry/shelf" "POST").spec]
        ([], .start) (composed, later) ∧
      Compile.Together composed (sketch "kitchen/pantry" "shelf" "GET").spec
        (sketch "kitchen" "pantry/shelf" "POST").spec ∧
      ¬ (sketch "kitchen/pantry" "shelf" "GET").spec.Alike
        (sketch "kitchen" "pantry/shelf" "POST").spec ∧
      grown.size = 1 := by
  have configured : ∃ grown later,
      (Hub.make "diner").configure default default
          (homeOf (sketch "kitchen/pantry" "shelf" "GET") (sketch "kitchen" "pantry/shelf" "POST"))
          .start =
        ((.ok .empty, grown), later) ∧ grown.size = 1 := ⟨_, _, rfl, rfl⟩
  obtain ⟨grown, later, configured, one⟩ := configured
  obtain ⟨composed, composes, -⟩ := composed_of_configure configured
  refine ⟨grown, later, composed, configured, composes, ?_, by decide, one⟩
  exact (composes.together_iff List.mem_cons_self
    (List.mem_cons_of_mem _ List.mem_cons_self)).mpr (by decide)

end Hub

end RequestHub
