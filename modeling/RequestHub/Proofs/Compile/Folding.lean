import RequestHub.Proofs.Compile.Composition
import RequestHub.Proofs.Listener.Decision

/-!
# How documents fold into a service

Documents with one key are folded into one service, in the order of the documents.  Every attribute of the
service has a rule of its own: the names are those of the first document, whether it is public is said by
the last one, and the schema and the limit of time are those of the last document that gives one.  The
handler of a method is that of the last block that lists the method.

Every handler is built once, of one block, and has a number of its own.  So methods share a handler exactly
if the same block was the last one to list them.
-/

namespace RequestHub

open Definition (Aggregate)

/-! ## Methods that a block lists -/

namespace Method

open Text (sameIgnoringAsciiCase lowerAscii)

theorem eq_of_same
    {left right : Method}
    {text : String}
    (first : sameIgnoringAsciiCase left.name text = true)
    (second : sameIgnoringAsciiCase right.name text = true) :
    left = right := by
  have apart : ∀ left ∈ all, ∀ right ∈ all, lowerAscii left.name = lowerAscii right.name → left = right := by
    decide
  apply apart left left.mem_all right right.mem_all
  exact (beq_iff_eq.mp first).trans (beq_iff_eq.mp second).symm

/-- A text is read as the method whose name it is, in letters of either case. -/
theorem ofString_eq_ok_iff
    {text : String}
    {method : Method} :
    Method.ofString text = .ok method ↔ sameIgnoringAsciiCase method.name text = true := by
  constructor
  · intro read
    by_cases named : Method.Named text
    · obtain ⟨other, readAs, same⟩ := Method.ofString_of_named named
      cases readAs.symm.trans read
      exact same
    · rw [Method.ofString_of_not_named named] at read
      cases read
  · intro same
    obtain ⟨other, readAs, named⟩ := Method.ofString_of_named ⟨method, same⟩
    rw [readAs, eq_of_same named same]

end Method

namespace Definition

/-- The block lists a method, in letters of either case. -/
def Handler.Lists (block : Handler) (method : Method) : Prop :=
  ∃ name ∈ block.methods, Text.sameIgnoringAsciiCase method.name name = true

instance (block : Handler) (method : Method) : Decidable (block.Lists method) :=
  List.decidableBEx (fun name => Text.sameIgnoringAsciiCase method.name name = true) block.methods

/-- The time that a service may take, if the document limits it, in nanoseconds. -/
def Aggregate.limit? (spec : Aggregate) : Option Nat :=
  (spec.timeout.filter (0 < ·)).map (· * Duration.milli)

/-- The name and the version of the schema, if the document names one. -/
def Aggregate.schema? (spec : Aggregate) : Option (String × String) :=
  spec.schemaName.map fun name => (name, spec.schemaVersion.getD "")

end Definition

namespace Compile

variable {registries : Registries} {assembly later : Assembly}

theorem mem_of_methods_eq_ok
    {names : List String}
    {made : List Method}
    (read : methods names = .ok made)
    (method : Method) :
    method ∈ made ↔ ∃ name ∈ names, Text.sameIgnoringAsciiCase method.name name = true := by
  unfold methods at read
  induction names generalizing made with
  | nil =>
      cases read
      simp
  | cons name names ih =>
      rw [List.mapM_cons] at read
      cases first : Method.ofString name with
      | error failure =>
          rw [first] at read
          cases read
      | ok known =>
          cases rest : names.mapM Method.ofString with
          | error failure =>
              rw [first, rest] at read
              cases read
          | ok others =>
              rw [first, rest] at read
              cases read
              have same := Method.ofString_eq_ok_iff.mp first
              have here : method = known ↔ Text.sameIgnoringAsciiCase method.name name = true := by
                constructor
                · intro equal
                  rwa [equal]
                · intro named
                  exact Method.eq_of_same named same
              rw [List.mem_cons, here, ih rest, List.exists_mem_cons_iff]

/-! ## What binding and describing change -/

theorem bind_eq
    (service : Service)
    (methods : List Method)
    (handler : Handler) :
    bind service methods handler =
      { service with
        handler := fun method => if method ∈ methods then some handler else service.handler method } := by
  induction methods generalizing service with
  | nil => simp [bind]
  | cons first methods ih =>
      change bind (service.setHandler first handler) methods handler = _
      rw [ih, Service.setHandler]
      congr 1
      funext method
      by_cases rest : method ∈ methods
      · simp [rest]
      · simp [rest]

theorem describe_eq
    (spec : Aggregate)
    (service : Service) :
    describe spec service =
      { service with
        isPublic := spec.isPublic
        schema := spec.schema?.or service.schema
        timeout := spec.limit?.or service.timeout } := by
  have schema : (describe spec service).schema = spec.schema?.or service.schema := by
    cases named : spec.schemaName with
    | none => simp [describe, Aggregate.schema?, named]
    | some name => simp [describe, Aggregate.schema?, named]
  have timeout : (describe spec service).timeout = spec.limit?.or service.timeout := by
    match given : spec.timeout with
    | none => simp [describe, Aggregate.limit?, given]
    | some 0 =>
        rw [describe, given, Aggregate.limit?, given]
        rfl
    | some (millis + 1) =>
        rw [describe, given, Aggregate.limit?, given]
        rfl
  rw [← schema, ← timeout]
  rfl

end Compile

/-! ## Numbers of handlers -/

namespace Assembling

variable {α β ε : Type} {registries : Registries}

/-- A part that makes no handler where it succeeds. -/
def Handlerless (part : Assembling ε α) : Prop :=
  ∀ value assembly later, part assembly = (.ok value, later) → later.handlers = assembly.handlers

theorem Handlerless.pure (value : α) : Handlerless (pure value : Assembling ε α) := by
  intro made assembly later ended
  obtain ⟨-, rfl⟩ := (pure_eq_ok_iff ..).mp ended
  rfl

theorem Handlerless.bind
    {part : Assembling ε α}
    {next : α → Assembling ε β}
    (first : Handlerless part)
    (second : ∀ value, Handlerless (next value)) :
    Handlerless (part >>= next) := by
  intro made assembly later ended
  obtain ⟨value, between, begun, rest⟩ := (bind_eq_ok_iff ..).mp ended
  exact (second value made between later rest).trans (first value assembly between begun)

theorem Handlerless.mapM
    {part : α → Assembling ε β}
    (each : ∀ item, Handlerless (part item))
    (items : List α) :
    Handlerless (items.mapM part) := by
  induction items with
  | nil => exact Handlerless.pure []
  | cons item items ih =>
      rw [List.mapM_cons]
      apply (each item).bind
      intro value
      apply ih.bind
      intro values
      exact Handlerless.pure (value :: values)

theorem Handlerless.callFound
    (found : Option (Factory α))
    (ofTarget : Bool)
    (config : Json)
    (missing : Failure) :
    Handlerless (callFound found ofTarget config missing) := by
  intro made assembly later ended
  cases found with
  | none => exact absurd ended (throw_ne_ok _ _ _ _)
  | some factory => rw [← (Prod.mk.inj ended).2]

end Assembling

namespace Compile

variable {registries : Registries} {assembly later : Assembly}

theorem workflow_handlerless (steps : List Definition.Step) :
    Assembling.Handlerless (workflow registries steps) := by
  apply Assembling.Handlerless.bind
  · apply Assembling.Handlerless.mapM
    intro step
    rw [Assembling.task_eq]
    apply (Assembling.Handlerless.callFound _ _ _ _).bind
    intro task
    exact .pure _
  · intro made
    exact .pure _

theorem target_handlerless (spec : Option Definition.Target) :
    Assembling.Handlerless (target registries spec) := by
  cases spec with
  | none => exact .pure none
  | some spec =>
      rw [Compile.target, Assembling.target_eq]
      apply (Assembling.Handlerless.callFound _ _ _ _).bind
      intro target
      exact .pure _

/-- A handler takes the number that is next, and is bound to the methods that its block lists. -/
theorem handler_numbered
    {spec : Definition.Handler}
    {methods : List Method}
    {made : Handler}
    (compiled : handler registries spec assembly = (.ok (methods, made), later)) :
    (∀ method, method ∈ methods ↔ spec.Lists method) ∧
      made.serial = assembly.handlers ∧ later.handlers = assembly.handlers + 1 := by
  obtain ⟨known, afterMethods, read, compiled⟩ := (Assembling.bind_eq_ok_iff ..).mp compiled
  obtain ⟨inbound, afterInbound, entering, compiled⟩ := (Assembling.bind_eq_ok_iff ..).mp compiled
  obtain ⟨outbound, afterOutbound, leaving, compiled⟩ := (Assembling.bind_eq_ok_iff ..).mp compiled
  obtain ⟨target, afterTarget, answering, compiled⟩ := (Assembling.bind_eq_ok_iff ..).mp compiled
  obtain ⟨serial, numbered, counted, compiled⟩ := (Assembling.bind_eq_ok_iff ..).mp compiled
  obtain ⟨read, same⟩ := Prod.ext_iff.mp read
  cases counted
  cases compiled
  have count : afterTarget.handlers = assembly.handlers := by
    rw [target_handlerless _ _ _ _ answering, workflow_handlerless _ _ _ _ leaving,
      workflow_handlerless _ _ _ _ entering]
    exact congrArg Assembly.handlers same.symm
  exact ⟨mem_of_methods_eq_ok read, count, congrArg (· + 1) count⟩

/-! ## What is built of the blocks -/

/-- A block of a document, and the handler that was built of it. -/
structure Built where
  source : Aggregate
  block : Definition.Handler
  handler : Handler

/-- The document and the block. -/
def Built.origin (built : Built) : Aggregate × Definition.Handler :=
  (built.source, built.block)

/-- The blocks of a document. -/
def blocksOf (spec : Aggregate) : List (Aggregate × Definition.Handler) :=
  spec.handlers.map (spec, ·)

/-- Handlers that are compiled from their blocks, one after another. -/
inductive Builds (registries : Registries) : List Built → Assembly → Assembly → Prop where
  | finished {here : Assembly} : Builds registries [] here here
  | built {first : Built} {others : List Built} {methods : List Method}
      {before between behind : Assembly}
      (compiled : handler registries first.block before = (.ok (methods, first.handler), between))
      (rest : Builds registries others between behind) :
      Builds registries (first :: others) before behind

theorem Builds.append
    {built more : List Built}
    {before between behind : Assembly}
    (first : Builds registries built before between)
    (second : Builds registries more between behind) :
    Builds registries (built ++ more) before behind := by
  induction first with
  | finished => exact second
  | built compiled rest ih => exact .built compiled (ih second)

/-- The handlers are numbered from the next number on, so that no two have one number. -/
theorem Builds.numbered
    {built : List Built}
    (builds : Builds registries built assembly later) :
    built.map (·.handler.serial) = List.range' assembly.handlers built.length := by
  induction builds with
  | finished => rfl
  | built compiled rest ih =>
      obtain ⟨-, number, count⟩ := handler_numbered compiled
      rw [List.map_cons, List.length_cons, List.range'_succ, ih, number, count]

/-- The last one of some blocks to list a method. -/
def binder (built : List Built) (method : Method) : Option Built :=
  (built.filter (·.block.Lists method)).getLast?

@[simp]
theorem binder_append
    (built more : List Built)
    (method : Method) :
    binder (built ++ more) method = (binder more method).or (binder built method) := by
  rw [binder, List.filter_append, List.getLast?_append]
  rfl

/-! ## Services of some documents -/

/-- A service as some documents, and the handlers that were built of their blocks, make it together. -/
structure FoldedFrom (documents : List Aggregate) (built : List Built) (service : Service) : Prop where
  /-- The names are those of the first document. -/
  api : documents.head?.map Aggregate.api = some service.api
  name : documents.head?.map Aggregate.name = some service.name
  /-- The last document says whether it is public. -/
  isPublic : documents.getLast?.map Aggregate.isPublic = some service.isPublic
  /-- The limit and the schema are those of the last document that gives one. -/
  timeout : service.timeout = (documents.filterMap Aggregate.limit?).getLast?
  schema : service.schema = (documents.filterMap Aggregate.schema?).getLast?
  /-- The handler of a method is that of the last block to list it. -/
  handler : ∀ method, service.handler method = (binder built method).map Built.handler

/-- What the last document gives counts, or else what counted before. -/
theorem getLast?_filterMap_concat
    {α : Type}
    (field : Aggregate → Option α)
    (documents : List Aggregate)
    (spec : Aggregate) :
    ((documents ++ [spec]).filterMap field).getLast? =
      (field spec).or (documents.filterMap field).getLast? := by
  rw [List.filterMap_append, List.getLast?_append]
  cases found : field spec with
  | none => simp [found]
  | some value => simp [found]

theorem FoldedFrom.first (spec : Aggregate) :
    FoldedFrom [spec] [] (describe spec (Service.make spec.api spec.name)) := by
  rw [describe_eq]
  constructor
  · rfl
  · rfl
  · rfl
  · exact (getLast?_filterMap_concat Aggregate.limit? [] spec).symm
  · exact (getLast?_filterMap_concat Aggregate.schema? [] spec).symm
  · intro method
    rfl

/-- One more document says whether the service is public, and what it gives counts from then on. -/
theorem FoldedFrom.describe
    {documents : List Aggregate}
    {built : List Built}
    {service : Service}
    (folded : FoldedFrom documents built service)
    (spec : Aggregate) :
    FoldedFrom (documents ++ [spec]) built (describe spec service) := by
  -- There is a first document already, because the service has names.
  have same : (documents ++ [spec]).head? = documents.head? := by
    cases documents with
    | nil => exact absurd folded.api (by simp)
    | cons first documents => rfl
  rw [describe_eq]
  constructor
  · rw [same]
    exact folded.api
  · rw [same]
    exact folded.name
  · rw [List.getLast?_append]
    rfl
  · rw [getLast?_filterMap_concat, ← folded.timeout]
  · rw [getLast?_filterMap_concat, ← folded.schema]
  · exact folded.handler

/-- A handler that is bound takes the methods that its block lists from those bound before. -/
theorem FoldedFrom.bind
    {documents : List Aggregate}
    {before : List Built}
    {service : Service}
    (folded : FoldedFrom documents before service)
    {methods : List Method}
    (built : Built)
    (listed : ∀ method, method ∈ methods ↔ built.block.Lists method) :
    FoldedFrom documents (before ++ [built]) (bind service methods built.handler) := by
  rw [bind_eq]
  refine ⟨folded.api, folded.name, folded.isPublic, folded.timeout, folded.schema, ?_⟩
  intro method
  have alone : binder [built] method = if method ∈ methods then some built else none := by
    by_cases lists : built.block.Lists method
    · simp [binder, listed, lists]
    · simp [binder, listed, lists]
  rw [binder_append, alone]
  by_cases member : method ∈ methods
  · simp [member]
  · simp [member, folded.handler method]

/-- The blocks of a document are built in order, and each takes the methods that it lists. -/
theorem handlers_folded
    {aggregate : String}
    {index : Nat}
    {service made : Service}
    {source : Aggregate}
    {specs : List Definition.Handler}
    (compiled : handlers registries aggregate index service specs assembly = (.ok made, later)) :
    ∃ built : List Built,
      Builds registries built assembly later ∧
        built.map Built.origin = specs.map (source, ·) ∧
          ∀ documents before, FoldedFrom documents before service →
            FoldedFrom documents (before ++ built) made := by
  -- The recursion binds each block on top of the service that the blocks before it have left.
  induction specs generalizing index service assembly with
  | nil =>
      obtain ⟨rfl, rfl⟩ := (Assembling.pure_eq_ok_iff ..).mp compiled
      refine ⟨[], .finished, rfl, ?_⟩
      intro documents before folded
      rwa [List.append_nil]
  | cons spec specs ih =>
      simp only [handlers] at compiled
      split at compiled
      · exact absurd compiled (Assembling.throw_ne_ok _ _ _ _)
      · obtain ⟨⟨methods, handler⟩, between, single, others⟩ :=
          (Assembling.bind_eq_ok_iff ..).mp compiled
        have single := Assembling.ok_of_explain single
        obtain ⟨built, builds, blocks, folds⟩ := ih others
        refine ⟨⟨source, spec, handler⟩ :: built, .built single builds, ?_, ?_⟩
        · rw [List.map_cons, List.map_cons, blocks]
          rfl
        · intro documents before folded
          have bound := folded.bind ⟨source, spec, handler⟩ (handler_numbered single).1
          have all := folds documents _ bound
          rwa [List.append_assoc] at all

/-- A document is folded into what was begun under its key, or begins a service. -/
theorem aggregate_folded
    {begun : Option Service}
    {spec : Aggregate}
    {made : Service}
    (compiled : aggregate registries begun spec assembly = (.ok made, later)) :
    ∃ built : List Built,
      Builds registries built assembly later ∧
        built.map Built.origin = blocksOf spec ∧
          (begun = none → FoldedFrom [spec] built made) ∧
            ∀ service documents before, begun = some service → FoldedFrom documents before service →
              FoldedFrom (documents ++ [spec]) (before ++ built) made := by
  unfold aggregate at compiled
  split at compiled
  · exact absurd compiled (Assembling.throw_ne_ok _ _ _ _)
  · obtain ⟨built, builds, blocks, folds⟩ := handlers_folded compiled
    refine ⟨built, builds, blocks, ?_, ?_⟩
    · rintro rfl
      exact folds [spec] [] (.first spec)
    · rintro service documents before rfl folded
      exact folds _ _ (folded.describe spec)

/-! ## Tables of services -/

/-- What was built of the documents with a key. -/
def under (built : List Built) (key : String) : List Built :=
  built.filter (·.source.key = key)

@[simp]
theorem under_append
    (built more : List Built)
    (key : String) :
    under (built ++ more) key = under built key ++ under more key :=
  List.filter_append ..

/-- What was built of one document was built under its key. -/
theorem under_of_blocks
    {spec : Aggregate}
    {built : List Built}
    (blocks : built.map Built.origin = blocksOf spec)
    (key : String) :
    under built key = if spec.key = key then built else [] := by
  have own : ∀ one ∈ built, one.source = spec := by
    intro one member
    have origin : one.origin ∈ blocksOf spec := blocks ▸ List.mem_map_of_mem member
    obtain ⟨block, -, same⟩ := List.mem_map.mp origin
    exact (congrArg Prod.fst same).symm
  by_cases same : spec.key = key
  · rw [if_pos same, under, List.filter_eq_self]
    intro one member
    rw [own one member, decide_eq_true same]
  · rw [if_neg same, under, List.filter_eq_nil_iff]
    intro one member
    rw [own one member, decide_eq_true_iff]
    exact same

/-- The services of a table are folded from their documents, and nothing was built under other keys. -/
structure Folds (table : Names Composed) (built : List Built) : Prop where
  begun : ∀ {key composed}, table.find? key = some composed →
    FoldedFrom composed.sources (under built key) composed.service
  bare : ∀ {key}, table.find? key = none → under built key = []

theorem Folds.nil : Folds [] [] where
  begun found := nomatch found
  bare _ := rfl

/-- One more document is folded into the service under its key, and leaves the others. -/
theorem Folds.insert
    {table : Names Composed}
    {before : List Built}
    (folds : Folds table before)
    {spec : Aggregate}
    {made : Service}
    (compiled :
      aggregate registries ((table.find? spec.key).map Composed.service) spec assembly =
        (.ok made, later)) :
    ∃ built : List Built,
      Builds registries built assembly later ∧
        built.map Built.origin = blocksOf spec ∧
          Folds (Names.insert spec.key ⟨made, sourcesOf table spec.key ++ [spec]⟩ table)
            (before ++ built) := by
  obtain ⟨built, builds, blocks, begins, goesOn⟩ := aggregate_folded compiled
  have here : FoldedFrom (sourcesOf table spec.key ++ [spec]) (under before spec.key ++ built) made := by
    cases found : table.find? spec.key with
    | none =>
        rw [sourcesOf, found, folds.bare found]
        apply begins
        rw [found]
        rfl
    | some composed =>
        rw [sourcesOf, found]
        apply goesOn composed.service composed.sources _ _ (folds.begun found)
        rw [found]
        rfl
  refine ⟨built, builds, blocks, ?_, ?_⟩
  · intro key composed found
    rw [Names.find?_insert] at found
    rw [under_append, under_of_blocks blocks]
    by_cases same : spec.key = key
    · rw [if_pos same.symm] at found
      cases found
      rw [if_pos same, ← same]
      exact here
    · rw [if_neg (Ne.symm same)] at found
      rw [if_neg same, List.append_nil]
      exact folds.begun found
  · intro key absent
    rw [Names.find?_insert] at absent
    by_cases same : spec.key = key
    · rw [if_pos same.symm] at absent
      cases absent
    · rw [if_neg (Ne.symm same)] at absent
      rw [under_append, under_of_blocks blocks, if_neg same, List.append_nil]
      exact folds.bare absent

/-- Documents are folded one by one, in their order. -/
theorem Composes.folds
    {specs : List Aggregate}
    {here last : Names Composed × Assembly}
    (composes : Composes registries specs here last)
    {before : List Built}
    (begun : Folds here.1 before) :
    ∃ built : List Built,
      Builds registries built here.2 last.2 ∧
        built.map Built.origin = specs.flatMap blocksOf ∧
          Folds last.1 (before ++ built) := by
  -- The documents with one key need not stand next to each other, so what was built so far goes along.
  induction composes generalizing before with
  | finished =>
      refine ⟨[], .finished, rfl, ?_⟩
      rwa [List.append_nil]
  | compiled ended others ih =>
      obtain ⟨first, builds, blocks, folds⟩ := begun.insert ended
      obtain ⟨rest, buildsRest, blocksRest, foldsAll⟩ := ih folds
      refine ⟨first ++ rest, builds.append buildsRest, ?_, ?_⟩
      · rw [List.map_append, List.flatMap_cons, blocks, blocksRest]
      · rwa [List.append_assoc] at foldsAll

/-- The blocks of the documents with a key are the blocks whose documents have the key. -/
theorem filter_blocks
    (specs : List Aggregate)
    (key : String) :
    (specs.flatMap blocksOf).filter (·.1.key = key) = (specs.filter (·.key = key)).flatMap blocksOf := by
  induction specs with
  | nil => rfl
  | cons spec specs ih =>
      rw [List.flatMap_cons, List.filter_append, ih, blocksOf, List.filter_map]
      by_cases same : spec.key = key
      · simp [same, blocksOf, Function.comp_def]
      · simp [same, Function.comp_def]

theorem map_origin_under
    {specs : List Aggregate}
    {built : List Built}
    (blocks : built.map Built.origin = specs.flatMap blocksOf)
    (key : String) :
    (under built key).map Built.origin = (specs.filter (·.key = key)).flatMap blocksOf := by
  rw [← filter_blocks, ← blocks, List.filter_map]
  rfl

/-! ## Methods without a handler, and methods that share one -/

theorem FoldedFrom.handler_eq_none_iff
    {documents : List Aggregate}
    {built : List Built}
    {service : Service}
    (folded : FoldedFrom documents built service)
    (blocks : built.map Built.origin = documents.flatMap blocksOf)
    (method : Method) :
    service.handler method = none ↔
      ∀ document ∈ documents, ∀ block ∈ document.handlers, ¬ block.Lists method := by
  have listed : (∀ one ∈ built, ¬ one.block.Lists method) ↔
      ∀ origin ∈ documents.flatMap blocksOf, ¬ origin.2.Lists method := by
    rw [← blocks, List.forall_mem_map]
    rfl
  rw [folded.handler, Option.map_eq_none_iff, binder, List.getLast?_eq_none_iff,
    List.filter_eq_nil_iff]
  simp only [decide_eq_true_iff]
  rw [listed]
  simp only [List.mem_flatMap, blocksOf, List.mem_map]
  constructor
  · intro none document member block inside
    exact none _ ⟨document, member, block, inside, rfl⟩
  · rintro none _ ⟨document, member, block, inside, rfl⟩
    exact none document member block inside

/-- Where no two handlers have one number, methods share a handler only if one block bound both. -/
theorem FoldedFrom.shared_iff
    {documents : List Aggregate}
    {built : List Built}
    {service : Service}
    (folded : FoldedFrom documents built service)
    (apart : (built.map (·.handler.serial)).Nodup)
    {left right : Method}
    {first second : Handler}
    (leftBound : service.handler left = some first)
    (rightBound : service.handler right = some second) :
    first.serial = second.serial ↔ binder built left = binder built right := by
  rw [folded.handler, Option.map_eq_some_iff] at leftBound rightBound
  obtain ⟨here, leftBinder, rfl⟩ := leftBound
  obtain ⟨there, rightBinder, rfl⟩ := rightBound
  have member {one : Built} {method : Method} (bound : binder built method = some one) : one ∈ built :=
    (List.mem_filter.mp (List.mem_of_getLast? bound)).1
  rw [leftBinder, rightBinder, Option.some_inj]
  constructor
  · intro same
    exact List.inj_on_of_nodup_map apart (member leftBinder) (member rightBinder) same
  · intro same
    rw [same]

end Compile

/-! ## Configured hubs -/

namespace Hub

open Compile (Built Builds FoldedFrom binder blocksOf under)

/-- What a service is that was folded from some documents, and how its methods are handled. -/
structure Settles (documents : List Aggregate) (built : List Built) (service : Service) : Prop where
  folded : FoldedFrom documents built service
  /-- A method has no handler exactly if no block lists it. -/
  unhandled_iff : ∀ method, service.handler method = none ↔
    ∀ document ∈ documents, ∀ block ∈ document.handlers, ¬ block.Lists method
  /-- Methods share a handler exactly if the same block is the last one to list them. -/
  shared_iff : ∀ {left right first second}, service.handler left = some first →
    service.handler right = some second →
      (first.serial = second.serial ↔ binder built left = binder built right)

/-- A hub that was configured from some documents, and what was built of their blocks. -/
structure FoldsTo
    (hub grown : Hub) (registries : Registries) (specs : List Aggregate)
    (assembly later : Assembly) (built : List Built) : Prop where
  /-- A handler is built of every block, in the order of the documents and of their blocks. -/
  builds : Builds registries built assembly later
  blocks : built.map Built.origin = specs.flatMap blocksOf
  /-- Every handler is an instance of its own. -/
  apart : (built.map (·.handler.serial)).Nodup
  /-- Under the key of a document stands what the documents with the key fold into. -/
  settles : ∀ key ∈ specs.map Aggregate.key, ∃ service, grown.services.find? key = some service ∧
    Settles (specs.filter (·.key = key)) (under built key) service
  /-- Under other keys stands what stood there. -/
  others : ∀ key ∉ specs.map Aggregate.key, grown.services.find? key = hub.services.find? key

variable {tree : FileTree} {registries : Registries} {documents : Home} {assembly later : Assembly}
  {hub grown : Hub} {catalog : Catalog}

/-- A hub that is configured has the services into which the documents with one key are folded. -/
theorem configure_folds
    (configured : hub.configure tree registries documents assembly = ((.ok catalog, grown), later)) :
    ∃ built, hub.FoldsTo grown registries (documents.aggregates.map (·.2.spec)) assembly later built := by
  obtain ⟨composed, composes, rfl⟩ := composed_of_configure configured
  generalize documents.aggregates.map (·.2.spec) = specs at composes
  obtain ⟨built, builds, blocks, folds⟩ := composes.folds Compile.Folds.nil
  obtain ⟨filed, keys⟩ := composes.filed
  have apart : (built.map (·.handler.serial)).Nodup := by
    rw [builds.numbered]
    exact List.nodup_range'
  have found (key : String) :
      (hub.installAll (Compile.services composed).values).services.find? key =
        ((Compile.services composed).find? key).or (hub.services.find? key) := by
    rw [find?_installAll, filed.latest_eq]
  refine ⟨built, builds, blocks, apart, ?_, ?_⟩
  · intro key member
    obtain ⟨spec, inside, rfl⟩ := List.mem_map.mp member
    obtain ⟨made, held, filedAs⟩ := composes.exists_of_mem inside
    have folded := folds.begun held
    rw [composes.sources_eq held, List.nil_append] at folded
    refine ⟨made.service, ?_, folded, ?_, ?_⟩
    · rw [found, filedAs, Option.some_or]
    · exact folded.handler_eq_none_iff (Compile.map_origin_under blocks spec.key)
    · apply folded.shared_iff
      exact apart.sublist (List.filter_sublist.map _)
  · intro key missing
    have absent : (Compile.services composed).find? key = none := by
      have unfiled := mt (keys key).mp missing
      simpa [Names.contains] using unfiled
    rw [found, absent, Option.none_or]

/-- The document of a pantry that is public for a time, with one handler for two methods. -/
def larderDocument : Definition.AggregateDocument :=
  { (default : Definition.AggregateDocument) with
    spec :=
      { (default : Aggregate) with
        api := "Kitchen"
        name := "pantry"
        isPublic := true
        schemaName := some "jar"
        timeout := some 5
        handlers := [⟨["get", "POST"], [], [], none⟩] } }

/-- A pantry keeps the names, the schema and the limit of its first document, and shares no handler. -/
theorem configure_folds_pantry :
    ∃ grown later built service first second,
      (Hub.make "diner").configure default default
          (homeOf larderDocument (sketch "kitchen" "Pantry" "Post")) .start =
        ((.ok .empty, grown), later) ∧
      (Hub.make "diner").FoldsTo grown default
        [larderDocument.spec, (sketch "kitchen" "Pantry" "Post").spec] .start later built ∧
      grown.services.find? "kitchen/pantry" = some service ∧
      service.api = "Kitchen" ∧ service.name = "pantry" ∧ service.isPublic = false ∧
      service.schema = some ("jar", "") ∧ service.timeout = some (5 * Duration.milli) ∧
      service.handler .get = some first ∧ service.handler .post = some second ∧
      first.serial ≠ second.serial := by
  have configured : ∃ grown later service first second,
      (Hub.make "diner").configure default default
          (homeOf larderDocument (sketch "kitchen" "Pantry" "Post")) .start =
        ((.ok .empty, grown), later) ∧
      grown.services.find? "kitchen/pantry" = some service ∧
      service.api = "Kitchen" ∧ service.name = "pantry" ∧ service.isPublic = false ∧
      service.schema = some ("jar", "") ∧ service.timeout = some (5 * Duration.milli) ∧
      service.handler .get = some first ∧ service.handler .post = some second ∧
      first.serial ≠ second.serial :=
    ⟨_, _, _, _, _, rfl, rfl, rfl, rfl, rfl, rfl, rfl, rfl, rfl, by decide⟩
  obtain ⟨grown, later, service, first, second, configured, found⟩ := configured
  obtain ⟨built, folds⟩ := configure_folds configured
  exact ⟨grown, later, built, service, first, second, configured, folds, found⟩

end Hub

end RequestHub
