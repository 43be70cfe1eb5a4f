import RequestHub.Application
import RequestHub.Proofs.Compile.Folding
import RequestHub.Proofs.Dispatch.Reflection

/-!
# Requests whose time ends at no instant

The settings of an application bound the time of a request, and the documents of a service bound the time
of its work.  Either bound is reckoned from the clock, and there is a greatest instant: a request whose time
would end behind it is aborted.

The check of settings looks at the addresses of a server, so that a server can be built from settings that
pass it.  It does not look at the time of a request.  `Timed` says when exactly a server aborts a request,
at whatever time the request comes.
-/

namespace RequestHub

/-! ## Work that is not aborted -/

namespace Work

variable {σ α β : Type} {scope : Scope} {subject : σ} {session : Session}

/-- Work that is never aborted, wherever it happens. -/
def Unaborted (work : Work σ α) : Prop :=
  ∀ scope subject session, (work scope subject session).1 ≠ .aborted

/-- Work that only gives a value. -/
theorem unaborted_pure (value : α) : Unaborted (pure value : Work σ α) := by
  intro scope subject session aborted
  cases aborted

theorem Unaborted.within
    {work : Work σ α}
    (unaborted : work.Unaborted)
    (context : Context) :
    (Work.within context work).Unaborted := by
  intro scope subject session aborted
  rw [Work.within] at aborted
  split at aborted
  · cases aborted
  · have inside := unaborted { scope with bounds := context :: scope.bounds } subject session
    split at aborted
    · split at aborted
      · cases aborted
      · cases aborted
    · exact inside aborted

/-- Work whose failure is its value is aborted exactly if the work is. -/
@[simp]
theorem attempt_aborts_iff
    (work : Work σ α) :
    (attempt work scope subject session).1 = .aborted ↔ (work scope subject session).1 = .aborted := by
  rw [attempt]
  rcases work scope subject session with ⟨_ | _ | _ | _, changed, later⟩
  · simp
  · simp
  · simp
  · exact ⟨fun _ => rfl, fun _ => rfl⟩

/-- Work after work is aborted exactly if the first is, where the second never is. -/
theorem bind_aborts_iff
    (work : Work σ α)
    {next : α → Work σ β}
    (unaborted : ∀ value, (next value).Unaborted) :
    ((work >>= next) scope subject session).1 = .aborted ↔
      (work scope subject session).1 = .aborted := by
  show (Work.bind work next scope subject session).1 = .aborted ↔ _
  rw [Work.bind]
  rcases work scope subject session with ⟨value | _ | _ | _, changed, later⟩
  · exact ⟨fun aborted => absurd aborted (unaborted value scope changed later), nofun⟩
  · exact ⟨nofun, nofun⟩
  · exact ⟨nofun, nofun⟩
  · exact ⟨fun _ => rfl, fun _ => rfl⟩

end Work

@[simp]
theorem Outcome.map_eq_aborted_iff
    {α β : Type}
    (change : α → β)
    (outcome : Outcome α) :
    outcome.map change = .aborted ↔ outcome = .aborted := by
  cases outcome with
  | done value => exact ⟨nofun, nofun⟩
  | failed failure => exact ⟨nofun, nofun⟩
  | interrupted => exact ⟨nofun, nofun⟩
  | aborted => exact ⟨fun _ => rfl, fun _ => rfl⟩

/-! ## The limit of a service -/

namespace Service

variable {service : Service} {session : Session}

/-- The handlers of a service never abort their work. -/
def Steady (service : Service) : Prop :=
  ∀ context, (service.handle context).Unaborted

theorem enclosed_isSome_of_instant
    (context : Context)
    (instant : service.EndsAtInstant session) :
    ∃ inner opened, Dispatch.enclosed? service context session = some (inner, opened) := by
  unfold Dispatch.enclosed?
  cases limit : service.timeout with
  | none => exact ⟨context, session, rfl⟩
  | some timeout =>
      exact ⟨_, _, (Context.child?_eq_some_iff ..).mpr ⟨instant timeout limit, rfl, rfl⟩⟩

/-- A service of steady handlers is aborted exactly if its time ends at no instant. -/
theorem Steady.dispatch_aborts_iff
    (steady : service.Steady)
    (context : Context)
    (scope : Scope)
    (request : Request) :
    (service.dispatch context scope request session).1 = .aborted ↔
      ¬ service.EndsAtInstant session := by
  constructor
  · intro aborted instant
    obtain ⟨inner, opened, enclosed⟩ := enclosed_isSome_of_instant context instant
    rw [Dispatch.dispatch_of_enclosed enclosed] at aborted
    exact (steady inner).within inner _ _ _ aborted
  · intro beyond
    rw [Dispatch.dispatch_of_unenclosed (enclosed_of_no_instant beyond)]

/-- The greatest limit that a document can give, in nanoseconds. -/
def greatestLimit : Nat := (twoTo 64 - 1) * Duration.milli

/-- The limits of some documents are numbers of milliseconds of no more than 64 bits. -/
def Limited (documents : List Definition.Aggregate) : Prop :=
  ∀ document ∈ documents, ∀ millis, document.timeout = some millis → millis < twoTo 64

/-- The time of a service that documents make together ends at an instant, unless the clock is near the end. -/
theorem endsAtInstant_of_folded
    {documents : List Definition.Aggregate}
    {built : List Compile.Built}
    (folded : Compile.FoldedFrom documents built service)
    (bounded : Limited documents)
    (near : session.now + greatestLimit ≤ Context.greatestInstant) :
    service.EndsAtInstant session := by
  intro limit limited
  have last := folded.timeout.symm.trans limited
  obtain ⟨document, member, gives⟩ := List.mem_filterMap.mp (List.mem_of_getLast? last)
  obtain ⟨millis, given, rfl⟩ := Option.map_eq_some_iff.mp gives
  have small := bounded document member millis ((Option.filter_eq_some_iff.mp given).1)
  have within : millis * Duration.milli ≤ greatestLimit :=
    Nat.mul_le_mul_right Duration.milli (Nat.le_sub_one_of_lt small)
  omega

end Service

/-! ## Hubs -/

namespace Hub

variable {hub : Hub} {context : Context} {session : Session}

theorem conclude_unaborted
    (service : Service)
    (id : Uuid)
    (ended : Except Failure Unit) :
    (conclude service id ended).Unaborted := by
  intro scope request session
  have taken : takeResponse scope request session = (.done request.response, request.detach, session) :=
    rfl
  rw [conclude, Work.bind_of_done taken]
  cases ended with
  | error failure => exact Work.unaborted_pure _ scope _ session
  | ok =>
      cases request.response with
      | none => exact Work.unaborted_pure _ scope _ session
      | some response => exact Work.unaborted_pure _ scope _ session

/-- The service that a hub finds has steady handlers. -/
def SteadyAt (hub : Hub) (route : Route) : Prop :=
  ∀ service, hub.resolve route.api route.service = some service → service.Steady

/-- The hub finds a service whose time ends at no instant. -/
def BeyondAt (hub : Hub) (route : Route) (session : Session) : Prop :=
  ∃ service, hub.resolve route.api route.service = some service ∧ ¬ service.EndsAtInstant session

theorem route_aborts_iff
    {scope : Scope}
    {request : Request}
    (steady : hub.SteadyAt request.route) :
    (hub.route context scope request session).1 = .aborted ↔ hub.BeyondAt request.route session := by
  cases found : hub.resolve request.route.api request.route.service with
  | none =>
      have missing : (hub.route context scope request session).1 ≠ .aborted := by
        have asked : Work.request scope request session = (.done request, request, session) := rfl
        rw [route, Work.bind_of_done asked, found]
        exact Work.unaborted_pure _ scope request session
      constructor
      · intro aborted
        exact absurd aborted missing
      · intro beyond
        obtain ⟨service, here, -⟩ := beyond
        cases found.symm.trans here
  | some service =>
      rw [Dispatch.route_of_found found, Work.bind_aborts_iff _ (conclude_unaborted service request.id),
        Work.attempt_aborts_iff, (steady service found).dispatch_aborts_iff]
      constructor
      · intro beyond
        exact ⟨service, found, beyond⟩
      · intro beyond
        obtain ⟨other, here, late⟩ := beyond
        cases found.symm.trans here
        exact late

/-- A request that can be read is aborted exactly if its service's time ends at no instant. -/
theorem handleRaw_aborts_iff
    {raw : RawRequest}
    (named : Method.Named raw.method)
    (whole : raw.broken = none)
    (steady : hub.SteadyAt (Route.ofPath raw.uri.path)) :
    (hub.handleRaw context raw session).1 = .aborted ↔
      hub.BeyondAt (Route.ofPath raw.uri.path) session := by
  obtain ⟨method, known, -⟩ := Method.ofString_of_named named
  obtain ⟨scope, routed⟩ : ∃ scope, (hub.handleRaw context raw session).1 =
      (hub.route context scope (Listener.arrived session.freshId.1 method raw)
        { session with made := session.made + 2 }).1 :=
    handleRaw_eq_route known whole
  rw [routed]
  exact route_aborts_iff steady

/-- The services that a hub is configured with end their work at instants, unless the clock is near the end. -/
theorem not_beyondAt_of_configure
    {tree : FileTree} {registries : Registries} {documents : Home} {assembly later : Assembly}
    {grown : Hub} {catalog : Catalog}
    (empty : hub.services = [])
    (configured : hub.configure tree registries documents assembly = ((.ok catalog, grown), later))
    (limited : Service.Limited (documents.aggregates.map (·.2.spec)))
    (near : session.now + Service.greatestLimit ≤ Context.greatestInstant)
    (route : Route) :
    ¬ grown.BeyondAt route session := by
  obtain ⟨composed, composes, rfl⟩ := composed_of_configure configured
  obtain ⟨built, -, -, folds⟩ := composes.folds Compile.Folds.nil
  intro beyond
  obtain ⟨service, found, late⟩ := beyond
  rw [resolve, services_installAll empty composes.filed.1, Compile.services, Names.find?_map] at found
  obtain ⟨made, held, rfl⟩ := Option.map_eq_some_iff.mp found
  have folded := folds.begun held
  have among : Service.Limited made.sources := by
    rw [composes.sources_eq held]
    intro document member
    exact limited document (List.mem_filter.mp member).1
  exact late (Service.endsAtInstant_of_folded folded among near)

end Hub

/-! ## Listeners -/

namespace Listener

variable {listener : Listener} {front : Front} {connection : Context} {raw : RawRequest}
  {session : Session}

/-- The time that settings give to a request ends at an instant, or they give none. -/
def EndsInTime (seconds : Nat) (session : Session) : Prop :=
  seconds = 0 ∨ session.now + seconds * Duration.second ≤ Context.greatestInstant

/-- The request is not answered before the hub is asked. -/
def Passes (listener : Listener) (front : Front) (raw : RawRequest) (session : Session) : Prop :=
  (listener.early? front raw session).or (bodyRefusal? front.bodyLimit raw) = none

/-- The bound on the time of a request that settings describe. -/
def limitOf (seconds : Nat) : Option Nat :=
  if seconds = 0 then none else some (seconds * Duration.second)

/-- What a listener does with the time of a request, whatever hub and clock there are. -/
structure Timed (seconds : Nat) (front : Front) : Prop where
  /-- The context for a request can be derived exactly if its time ends at an instant. -/
  bounded_iff : ∀ connection session,
    (bounded? front connection session).isSome = true ↔ EndsInTime seconds session
  /-- It then has a deadline, and the deadline is an instant. -/
  deadline_le : ∀ connection session inner opened,
    bounded? front connection session = some (inner, opened) → seconds ≠ 0 →
      ∃ deadline ≤ Context.greatestInstant, inner.deadline = some deadline
  /-- A request whose time ends at no instant is aborted before the hub is asked. -/
  aborts : ∀ listener connection raw session,
    Passes listener front raw session → ¬ EndsInTime seconds session →
      handle listener front connection raw session = (.aborted, session)
  /-- Where handlers are steady, this and the limit of the service are all that aborts a request. -/
  aborts_iff : ∀ listener connection raw session,
    front.hub.SteadyAt (Route.ofPath raw.uri.path) →
      ((handle listener front connection raw session).1 = .aborted ↔
        Passes listener front raw session ∧
          (¬ EndsInTime seconds session ∨ front.hub.BeyondAt (Route.ofPath raw.uri.path) session))

theorem bounded_of_limit
    {seconds : Nat}
    (limit : front.requestTimeout = limitOf seconds)
    (connection : Context)
    (session : Session) :
    bounded? front connection session =
      if seconds = 0 then some (connection, session)
      else connection.child? (seconds * Duration.second) session := by
  rw [bounded?, limit, limitOf]
  split
  · rename_i timeout given
    split at given
    · cases given
    · rename_i some
      rw [if_neg some, Option.some.inj given]
  · rename_i none
    split at none
    · rename_i zero
      rw [if_pos zero]
    · cases none

/-- A context is derived exactly if the time ends at an instant, and then at the time of the clock. -/
theorem bounded_cases
    {seconds : Nat}
    (limit : front.requestTimeout = limitOf seconds)
    (connection : Context)
    (session : Session) :
    (EndsInTime seconds session ∧ ∃ inner opened,
        bounded? front connection session = some (inner, opened) ∧ opened.now = session.now ∧
          (seconds ≠ 0 → ∃ deadline ≤ Context.greatestInstant, inner.deadline = some deadline)) ∨
      ¬ EndsInTime seconds session ∧ bounded? front connection session = none := by
  rw [bounded_of_limit limit]
  by_cases zero : seconds = 0
  · rw [if_pos zero]
    exact Or.inl ⟨Or.inl zero, connection, session, rfl, rfl, fun other => absurd zero other⟩
  · rw [if_neg zero]
    by_cases instant : session.now + seconds * Duration.second ≤ Context.greatestInstant
    · have derived := (Context.child?_eq_some_iff connection _ _ session _).mpr ⟨instant, rfl, rfl⟩
      refine Or.inl ⟨Or.inr instant, _, _, derived, rfl, fun _ => ⟨_, ?_, rfl⟩⟩
      -- The deadline is not later than the end of the time of the request.
      unfold Context.earlier
      split
      · exact (Nat.min_le_right _ _).trans instant
      · exact instant
    · refine Or.inr ⟨?_, if_neg instant⟩
      intro ends
      exact ends.elim zero instant

/-- A server gives requests the time that its settings say, and aborts those whose time ends nowhere. -/
theorem timed_of_limit
    {seconds : Nat}
    (limit : front.requestTimeout = limitOf seconds) :
    Timed seconds front := by
  have aborts (listener : Listener) (connection : Context) (raw : RawRequest) (session : Session)
      (passes : Passes listener front raw session) (beyond : ¬ EndsInTime seconds session) :
      handle listener front connection raw session = (.aborted, session) := by
    rw [handle_of_no_rule passes, serve]
    obtain ⟨ends, -⟩ | ⟨-, none⟩ := bounded_cases limit connection session
    · exact absurd ends beyond
    · rw [none]
  constructor
  case bounded_iff =>
    intro connection session
    obtain ⟨ends, inner, opened, derived, -⟩ | ⟨beyond, none⟩ :=
      bounded_cases limit connection session
    · rw [derived]
      exact ⟨fun _ => ends, fun _ => rfl⟩
    · rw [none]
      exact ⟨Bool.noConfusion, fun ends => absurd ends beyond⟩
  case deadline_le =>
    intro connection session inner opened derived some
    obtain ⟨-, _, _, here, -, deadline⟩ | ⟨-, none⟩ := bounded_cases limit connection session
    · cases derived.symm.trans here
      exact deadline some
    · cases none.symm.trans derived
  case aborts =>
    exact aborts
  case aborts_iff =>
    intro listener connection raw session steady
    by_cases passes : Passes listener front raw session
    · have named := named_of_early? (Option.or_eq_none_iff.mp passes).1
      have whole := broken_of_bodyRefusal? (Option.or_eq_none_iff.mp passes).2
      obtain ⟨ends, inner, opened, derived, now, -⟩ | ⟨beyond, -⟩ :=
        bounded_cases limit connection session
      · -- The clock stands still while the context is derived, so that the hub sees the same time.
        have served : (handle listener front connection raw session).1 = .aborted ↔
            (front.hub.handleRaw inner raw opened).1 = .aborted := by
          rw [handle_of_no_rule passes, serve, derived]
          exact Outcome.map_eq_aborted_iff ..
        have same : front.hub.BeyondAt (Route.ofPath raw.uri.path) opened ↔
            front.hub.BeyondAt (Route.ofPath raw.uri.path) session := by
          unfold Hub.BeyondAt Service.EndsAtInstant
          rw [now]
        rw [served, Hub.handleRaw_aborts_iff named whole steady, same]
        constructor
        · intro late
          exact ⟨passes, Or.inr late⟩
        · intro either
          exact either.2.resolve_left fun beyond => beyond ends
      · constructor
        · intro _
          exact ⟨passes, Or.inl beyond⟩
        · intro _
          rw [aborts listener connection raw session passes beyond]
    · constructor
      · intro aborted
        obtain ⟨answer, applies⟩ := Option.ne_none_iff_exists'.mp passes
        rw [handle_of_rule applies] at aborted
        cases aborted
      · intro either
        exact absurd either.1 passes

/-- From some number of seconds on the time of a request ends at no instant, whatever the clock says. -/
theorem not_endsInTime
    {seconds : Nat}
    (vast : twoTo 63 ≤ seconds)
    (session : Session) :
    ¬ EndsInTime seconds session := by
  have scaled : twoTo 63 * Duration.second ≤ seconds * Duration.second :=
    Nat.mul_le_mul_right Duration.second vast
  have least : Context.greatestInstant < twoTo 63 * Duration.second := by decide +kernel
  have positive : 0 < twoTo 63 := by decide +kernel
  intro ends
  cases ends with
  | inl zero => omega
  | inr instant => omega

end Listener

/-! ## Settings that pass the check -/

namespace Settings

/-- The settings with another time for requests. -/
def withRequestSeconds (settings : Settings) (seconds : Nat) : Settings :=
  { settings with server := { settings.server with requestSeconds := seconds } }

/-- The check does not look at the time of requests. -/
@[simp]
theorem check_withRequestSeconds (settings : Settings) (seconds : Nat) :
    (settings.withRequestSeconds seconds).check = settings.check := rfl

@[simp]
theorem demand_eq_ok_iff
    (condition : Bool)
    (setting reason : String) :
    demand condition setting reason = .ok () ↔ condition = true := by
  cases condition with
  | false => exact ⟨nofun, nofun⟩
  | true => exact ⟨fun _ => rfl, fun _ => rfl⟩

/-- The addresses of settings that pass the check are addresses. -/
theorem addresses_of_check
    {settings : Settings}
    (accepted : settings.check = .ok ()) :
    (∃ address, Server.Plan.address settings.server.publicAddress = .ok address) ∧
      ∃ address, settings.server.privateAddress.mapM Server.Plan.address = .ok address := by
  have readable {setting text : String} (looked : checkAddress setting text = .ok ()) :
      ∃ address, Server.Plan.address text = .ok address := by
    rw [checkAddress, demand_eq_ok_iff, Option.isSome_iff_exists] at looked
    obtain ⟨address, read⟩ := looked
    exact ⟨address, by rw [Server.Plan.address, read]⟩
  simp only [check] at accepted
  cases first : checkAddress "server.public_addr" settings.server.publicAddress with
  | error failure =>
      rw [first] at accepted
      cases accepted
  | ok =>
      cases second : checkAddress? "server.private_addr" settings.server.privateAddress with
      | error failure =>
          rw [first, second] at accepted
          cases accepted
      | ok =>
          refine ⟨readable first, ?_⟩
          cases given : settings.server.privateAddress with
          | none => exact ⟨none, rfl⟩
          | some text =>
              rw [given] at second
              obtain ⟨address, read⟩ := readable second
              exact ⟨some address, by rw [Option.mapM_some, read]; rfl⟩

end Settings

namespace Application

open Listener (Timed limitOf)

/-- An application whose settings pass the check has a server, with the bounds and addresses in them. -/
theorem server_of_check
    (application : Application)
    (accepted : application.settings.check = .ok ()) :
    ∃ server, application.server = .ok server ∧ server.hub = application.hub ∧
      server.bodyLimit = application.settings.server.bodyLimit ∧
        server.requestTimeout = limitOf application.settings.server.requestSeconds ∧
          Server.Plan.address application.settings.server.publicAddress = .ok server.publicAddress ∧
            application.settings.server.privateAddress.mapM Server.Plan.address =
              .ok server.privateAddress := by
  obtain ⟨⟨publicAddress, first⟩, privateAddress, second⟩ := Settings.addresses_of_check accepted
  let server : Server := {
    hub := application.hub
    publicAddress
    privateAddress
    shutdownTimeout := application.settings.server.shutdownSeconds * Duration.second
    bodyLimit := application.settings.server.bodyLimit
    requestTimeout := limitOf application.settings.server.requestSeconds }
  have built : application.server = .ok server := by
    simp only [Application.server, Server.Plan.withSettings, Server.Plan.build, first, second]
    rfl
  exact ⟨server, built, rfl, rfl, rfl, first, second⟩

/-- What becomes of the time of requests in front of an application whose settings pass the check. -/
structure ServesInTime (application : Application) : Prop where
  /-- There is a server, and it does with the time of a request what the settings say. -/
  served : ∃ server, application.server = .ok server ∧ server.hub = application.hub ∧
    ∀ front : Front, front.requestTimeout = server.requestTimeout →
      Timed application.settings.server.requestSeconds front
  /-- A hub that documents describe aborts no request for the limit of a service, unless the clock is near
  the end. -/
  limited : ∀ {hub : Hub} {tree registries documents assembly later catalog},
    hub.services = [] →
      hub.configure tree registries documents assembly = ((.ok catalog, application.hub), later) →
        Service.Limited (documents.aggregates.map (·.2.spec)) →
          ∀ session : Session, session.now + Service.greatestLimit ≤ Context.greatestInstant →
            ∀ route, ¬ application.hub.BeyondAt route session
  /-- The check passes the same settings with any other time, be it one that ends at no instant. -/
  unlooked : ∀ seconds,
    (application.settings.withRequestSeconds seconds).check = .ok () ∧
      (twoTo 63 ≤ seconds → ∀ session, ¬ Listener.EndsInTime seconds session)

/-- An application whose settings pass the check can be served, and aborts what ends at no instant. -/
theorem servesInTime_of_check
    (application : Application)
    (accepted : application.settings.check = .ok ()) :
    application.ServesInTime := by
  obtain ⟨server, built, hub, -, limit, -⟩ := application.server_of_check accepted
  constructor
  case served =>
    refine ⟨server, built, hub, ?_⟩
    intro front same
    exact Listener.timed_of_limit (same.trans limit)
  case limited =>
    intro hub tree registries documents assembly later catalog empty configured limited session near route
    exact Hub.not_beyondAt_of_configure empty configured limited near route
  case unlooked =>
    intro seconds
    constructor
    · rw [Settings.check_withRequestSeconds]
      exact accepted
    · intro vast session
      exact Listener.not_endsInTime vast session

/-- An application with a public service that sends back what it is sent. -/
def mirrored (settings : Settings) : Application where
  name := "mirrored"
  settings
  hub := (Hub.make "store").install { Hub.mirror none with isPublic := true }
  catalog := .empty
  registries := .empty

theorem servesInTime_of_check_mirrored :
    (mirrored {}).settings.check = .ok () ∧ (mirrored {}).ServesInTime := by
  have accepted : (mirrored {}).settings.check = .ok () := by decide +kernel
  exact ⟨accepted, servesInTime_of_check (mirrored {}) accepted⟩

/-- Settings that pass the check, and give requests more time than there is. -/
def patient : Settings :=
  Settings.withRequestSeconds {} (twoTo 63)

/-- A patient application has a server, and aborts a request for its public service. -/
theorem patient_aborts_card :
    patient.check = .ok () ∧
      ∃ server, (mirrored patient).server = .ok server ∧
        Listener.publicSide.handle (Front.ofServer server Dispatch.morning) (.ofToken [])
          Hub.card Dispatch.morning = (.aborted, Dispatch.morning) := by
  have accepted : patient.check = .ok () := by decide +kernel
  obtain ⟨server, built, hub, bodies, limit, -⟩ := (mirrored patient).server_of_check accepted
  refine ⟨accepted, server, built, ?_⟩
  have timed : Timed (twoTo 63) (Front.ofServer server Dispatch.morning) :=
    Listener.timed_of_limit limit
  apply timed.aborts
  · show (((Listener.methodRefusal? Hub.card).or
      (Listener.publicSide.routeRefusal? server.hub Hub.card)).or
        (Listener.declaredRefusal? server.bodyLimit Hub.card)).or
          (Listener.bodyRefusal? server.bodyLimit Hub.card) = none
    rw [hub, bodies]
    decide +kernel
  · exact Listener.not_endsInTime (Nat.le_refl _) Dispatch.morning

end Application

end RequestHub
