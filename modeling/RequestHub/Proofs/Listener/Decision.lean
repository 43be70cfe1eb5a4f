import Mathlib.Tactic.ByContra
import RequestHub.Listener
import RequestHub.Proofs.Dispatch.Handling

/-!
# How a listener decides

A listener answers a request by the first of five rules that applies to it: it reports on the server,
refuses the method, hides the route, refuses the length of the body, or lets the hub answer.  The rules
are stated here by what they ask of the request alone.  `Decided` says which answer each rule gives,
and that only the last one changes the session, so that no plugin is called by the others.

The listener and the hub look up the service of a request apart from each other.  Both find the same
one, so that a hub whose services are all public answers on the public listener in the same way.
-/

namespace RequestHub

/-! ## Methods that hubs know -/

/-- A text names one of the methods, in letters of either case. -/
def Method.Named (text : String) : Prop :=
  ∃ method : Method, Text.sameIgnoringAsciiCase method.name text = true

theorem Method.ofString?_eq_none_iff (text : String) :
    Method.ofString? text = none ↔ ¬ Method.Named text := by
  simp [Method.ofString?, Method.Named, Method.mem_all]

theorem Method.same_of_ofString?
    {text : String} {method : Method} (found : Method.ofString? text = some method) :
    Text.sameIgnoringAsciiCase method.name text = true := by
  rw [Method.ofString?] at found
  have named := List.find?_some found
  exact named

/-- A text that names a method is read as a method that it names. -/
theorem Method.ofString_of_named
    {text : String} (named : Method.Named text) :
    ∃ method, Method.ofString text = .ok method ∧
      Text.sameIgnoringAsciiCase method.name text = true := by
  cases found : Method.ofString? text with
  | none => exact absurd named ((Method.ofString?_eq_none_iff text).mp found)
  | some method =>
      exact ⟨method, by simp [Method.ofString, found], Method.same_of_ofString? found⟩

theorem Method.ofString_of_not_named
    {text : String} (unnamed : ¬ Method.Named text) :
    Method.ofString text = .error (.unsupportedMethod text) := by
  simp [Method.ofString, (Method.ofString?_eq_none_iff text).mpr unnamed]

/-! ## Hubs that differ in services that are not asked for -/

namespace Hub

/-- A hub answers a request through the service that it finds for its route, and through no other. -/
theorem handle_congr
    {hub other : Hub} {context : Context} {scope : Scope} {request : Request} {session : Session}
    (same : hub.resolve request.route.api request.route.service =
      other.resolve request.route.api request.route.service) :
    hub.handle context scope request session = other.handle context scope request session := by
  have asked (scope : Scope) (session : Session) :
      Work.request scope request session = (.done request, request, session) := rfl
  change hub.route context (Dispatch.spanned scope request session).1 request _ =
    other.route context (Dispatch.spanned scope request session).1 request _
  rw [Hub.route, Hub.route, Work.bind_of_done (asked _ _), Work.bind_of_done (asked _ _), same]

/-- The hub with its public services alone. -/
def onlyPublic (hub : Hub) : Hub :=
  { hub with services := hub.services.filter (·.2.isPublic) }

end Hub

theorem Hub.resolve_onlyPublic
    {hub : Hub} {api name : String}
    (shown : ∀ service, hub.resolve api name = some service → service.isPublic = true) :
    hub.onlyPublic.resolve api name = hub.resolve api name :=
  Names.find?_filter shown

namespace Listener

variable {listener : Listener} {front : Front} {connection : Context} {raw : RawRequest}
  {session : Session}

/-! ## The five rules -/

/-- The private listener is asked for a report on the server. -/
def Asks (listener : Listener) (raw : RawRequest) : Prop :=
  listener = .privateSide ∧ (raw.method = "GET" ∨ raw.method = "HEAD") ∧
    (raw.uri.path = "/health" ∨ raw.uri.path = "/ready" ∨ raw.uri.path = "/metrics")

/--
A listener hides a path: the public one those of internal calls and of services that are not public, the
private one all others than those of internal calls.
-/
def Hides (listener : Listener) (hub : Hub) (path : String) : Prop :=
  match listener with
  | .publicSide =>
      Route.isInternal path = true ∨
        ∃ service, hub.resolve (Route.ofPath path).api (Route.ofPath path).service = some service ∧
          service.isPublic = false
  | .privateSide => Route.isInternal path = false

/-- The failure that answers for a path that is hidden: there is no such service. -/
def unseen (path : String) : Failure :=
  .serviceNotFound (Route.ofPath path).api (Route.ofPath path).service

/-- The body of a request arrives whole, and is as long as is declared, if anything is declared. -/
structure Readable (raw : RawRequest) : Prop where
  whole : raw.broken = none
  declared : ∀ {length}, Transport.declaredLength? raw.headers = some length →
    length = raw.frames.flatten.length

/-- The request that a hub is given. -/
def arrived (id : Uuid) (method : Method) (raw : RawRequest) : Request :=
  { Request.make id method raw.uri raw.headers (raw.trailers.getD []) raw.frames.flatten with
    transport := Transport.ofRaw raw }

theorem report?_of_asks (asks : listener.Asks raw) :
    ∃ answer, reportAt? front raw.uri.path session = some answer ∧
      listener.report? front raw session = some answer := by
  rcases asks with ⟨rfl, method, path⟩
  have asked : (raw.method = "GET" || raw.method = "HEAD") = true := by simpa using method
  rcases path with path | path | path <;>
    exact ⟨_, by rw [path]; rfl, by simp [report?, asked, path]; rfl⟩

theorem report?_of_not_asks (asks : ¬ listener.Asks raw) :
    listener.report? front raw session = none := by
  unfold report?
  split
  · rename_i private_method
    obtain ⟨rfl, method⟩ : listener = .privateSide ∧ (raw.method = "GET" ∨ raw.method = "HEAD") := by
      simpa using private_method
    have path : ¬ (raw.uri.path = "/health" ∨ raw.uri.path = "/ready" ∨
        raw.uri.path = "/metrics") := fun path => asks ⟨rfl, method, path⟩
    simp only [not_or] at path
    simp [reportAt?, path]
  · rfl

theorem shows_eq_false_iff (hub : Hub) (path : String) :
    listener.shows hub path = false ↔ listener.Hides hub path := by
  cases listener with
  | privateSide => exact Iff.rfl
  | publicSide =>
      cases found : hub.resolve (Route.ofPath path).api (Route.ofPath path).service <;>
        cases internal : Route.isInternal path <;> simp [shows, Hides, found, internal]

theorem routeRefusal?_of_hides (hides : listener.Hides front.hub raw.uri.path) :
    listener.routeRefusal? front.hub raw =
      some (refused (unseen raw.uri.path)) := by
  have hidden := (shows_eq_false_iff front.hub raw.uri.path).mpr hides
  simp [routeRefusal?, hidden, unseen]

theorem routeRefusal?_of_not_hides (hides : ¬ listener.Hides front.hub raw.uri.path) :
    listener.routeRefusal? front.hub raw = none := by
  have shown : listener.shows front.hub raw.uri.path = true :=
    (Bool.not_eq_false _).mp fun hidden => hides ((shows_eq_false_iff ..).mp hidden)
  simp [routeRefusal?, shown]

/-- A declared length refuses no other bodies than their own length does. -/
theorem lengthRefusal?_eq (readable : Readable raw) (limit : Nat) :
    (declaredRefusal? limit raw).or (bodyRefusal? limit raw) =
      if limit < raw.frames.flatten.length then some (tooLong limit) else none := by
  have whole : raw.broken = none := readable.whole
  cases found : Transport.declaredLength? raw.headers with
  | none => simp [declaredRefusal?, found, bodyRefusal?, whole]
  | some length =>
      obtain rfl := readable.declared found
      split <;> simp_all [declaredRefusal?, bodyRefusal?]

theorem methodRefusal?_of_named (named : Method.Named raw.method) : methodRefusal? raw = none := by
  rcases Method.ofString_of_named named with ⟨method, read, -⟩
  simp [methodRefusal?, read]

theorem methodRefusal?_of_not_named (unnamed : ¬ Method.Named raw.method) :
    methodRefusal? raw = some (refused (.unsupportedMethod raw.method)) := by
  simp [methodRefusal?, Method.ofString_of_not_named unnamed]

/-- A listener lets no request pass whose method is unknown. -/
theorem named_of_early? (passed : listener.early? front raw session = none) :
    Method.Named raw.method := by
  rw [early?, Option.or_eq_none_iff, Option.or_eq_none_iff, Option.or_eq_none_iff] at passed
  by_contra unnamed
  rw [methodRefusal?_of_not_named unnamed] at passed
  cases passed.1.1.2

/-- A body that is not refused has arrived whole. -/
theorem broken_of_bodyRefusal?
    {limit : Nat} (silent : bodyRefusal? limit raw = none) : raw.broken = none := by
  unfold bodyRefusal? at silent
  split at silent
  · cases silent
  · simpa using silent

/-! ## What the hub is given -/

/-- A hub reads a request whose method it knows and whose body is whole. -/
theorem ofRaw_eq
    {method : Method} (read : Method.ofString raw.method = .ok method) (whole : raw.broken = none)
    (id : Uuid) : Request.ofRaw id raw = .ok (arrived id method raw) := by
  simp [Request.ofRaw, read, whole, arrived]

/-- The hub looks up the route that the listener has looked up. -/
theorem route_of_ofRaw
    {id : Uuid} {request : Request} (read : Request.ofRaw id raw = .ok request) :
    request.route = Route.ofPath raw.uri.path := by
  unfold Request.ofRaw at read
  split at read
  · cases read
  · split at read
    · cases read
    · cases read
      rfl

/-- The pieces of a body count only for the whole that they make. -/
theorem ofRaw_pieces
    {frames : List Bytes} (same : frames.flatten = raw.frames.flatten) (id : Uuid) :
    Request.ofRaw id { raw with frames } = Request.ofRaw id raw := by
  simp only [Request.ofRaw, same]
  rfl

theorem serve_pieces
    {frames : List Bytes} (same : frames.flatten = raw.frames.flatten) :
    serve front connection { raw with frames } session = serve front connection raw session := by
  simp only [serve, Hub.handleRaw, ofRaw_pieces same]

/-- The answer of the hub to a request, within the time that the front gives it. -/
def dispatched (front : Front) (connection : Context) (method : Method) (raw : RawRequest)
    (session : Session) : Outcome Response × Session :=
  match bounded? front connection session with
  | none => (.aborted, session)
  | some (context, opened) =>
      let (id, begun) := opened.freshId
      let (outcome, _, later) := Work.run (front.hub.handle context) (arrived id method raw) begun
      (outcome.map answer, later)

theorem serve_eq
    {method : Method} (read : Method.ofString raw.method = .ok method) (whole : raw.broken = none) :
    serve front connection raw session = dispatched front connection method raw session := by
  unfold serve dispatched
  cases bounded? front connection session with
  | none => rfl
  | some bound =>
      rcases bound with ⟨context, opened⟩
      simp only [Hub.handleRaw, ofRaw_eq read whole]

/-- Behind a route that the public listener shows there is no service but a public one. -/
theorem isPublic_of_not_hides
    {hub : Hub} {path : String} (hides : ¬ Listener.publicSide.Hides hub path)
    {service : Service}
    (found : hub.resolve (Route.ofPath path).api (Route.ofPath path).service = some service) :
    service.isPublic = true := by
  have shown := mt Or.inr hides
  exact (Bool.not_eq_false _).mp fun hidden => shown ⟨service, found, hidden⟩

/-- What the public listener shows of a hub it shows of the public services alone. -/
theorem hides_onlyPublic
    {hub : Hub} {path : String} (hides : ¬ Listener.publicSide.Hides hub path)
    (hidden : Listener.publicSide.Hides hub.onlyPublic path) :
    Listener.publicSide.Hides hub path := by
  have same := Hub.resolve_onlyPublic fun _ found => isPublic_of_not_hides hides found
  simpa only [Hides, same] using hidden

/-- Hubs that find the same service for the path of a request let it be answered in the same way. -/
theorem serve_congr
    {other : Hub}
    (same : other.resolve (Route.ofPath raw.uri.path).api (Route.ofPath raw.uri.path).service =
      front.hub.resolve (Route.ofPath raw.uri.path).api (Route.ofPath raw.uri.path).service) :
    serve { front with hub := other } connection raw session =
      serve front connection raw session := by
  have alike (context : Context) (opened : Session) :
      other.handleRaw context raw opened = front.hub.handleRaw context raw opened := by
    simp only [Hub.handleRaw]
    cases read : Request.ofRaw opened.freshId.1 raw with
    | error failure => rfl
    | ok request =>
        have routed : request.route = Route.ofPath raw.uri.path := route_of_ofRaw read
        have handled : Work.run (other.handle context) request opened.freshId.2 =
            Work.run (front.hub.handle context) request opened.freshId.2 :=
          Hub.handle_congr (routed ▸ same)
        simp only [handled]
  simp only [serve, bounded?, alike]

/-- For a route that the public listener shows the hub answers with its public services alone. -/
theorem serve_onlyPublic
    (hides : ¬ Listener.publicSide.Hides front.hub raw.uri.path) :
    serve { front with hub := front.hub.onlyPublic } connection raw session =
      serve front connection raw session :=
  serve_congr (Hub.resolve_onlyPublic fun _ found => isPublic_of_not_hides hides found)

/-! ## The decision -/

/--
The answers of a listener, rule by rule.  Rules that stand below one that applies do not count, and the
session is left as it was by all rules but the last, so that no plugin is called by them.
-/
structure Decided
    (listener : Listener) (front : Front) (connection : Context) (raw : RawRequest)
    (session : Session) : Prop where
  report : listener.Asks raw →
    ∃ answer, reportAt? front raw.uri.path session = some answer ∧
      listener.handle front connection raw session = (.done answer, session)
  unsupported : ¬ listener.Asks raw → ¬ Method.Named raw.method →
    listener.handle front connection raw session =
        (.done (refused (.unsupportedMethod raw.method)), session) ∧
      (refused (.unsupportedMethod raw.method)).status = .methodNotAllowed
  hidden : ¬ listener.Asks raw → Method.Named raw.method →
    listener.Hides front.hub raw.uri.path →
    listener.handle front connection raw session =
        (.done (refused (unseen raw.uri.path)), session) ∧
      (refused (unseen raw.uri.path)).status = .notFound
  exceeded : ¬ listener.Asks raw → Method.Named raw.method →
    ¬ listener.Hides front.hub raw.uri.path → front.bodyLimit < raw.frames.flatten.length →
    listener.handle front connection raw session = (.done (tooLong front.bodyLimit), session) ∧
      (tooLong front.bodyLimit).status = .payloadTooLarge
  hub : ¬ listener.Asks raw → Method.Named raw.method →
    ¬ listener.Hides front.hub raw.uri.path → raw.frames.flatten.length ≤ front.bodyLimit →
    ∃ method, Text.sameIgnoringAsciiCase method.name raw.method = true ∧
      listener.handle front connection raw session =
        dispatched front connection method raw session
  /-- The hub itself finds no service but a public one for what the public listener lets pass. -/
  shown : listener = .publicSide → ¬ listener.Hides front.hub raw.uri.path →
    ∀ id method service,
      front.hub.resolve (arrived id method raw).route.api (arrived id method raw).route.service =
        some service → service.isPublic = true
  /-- The services that are not public make no difference to what the public listener lets pass. -/
  isolated : listener = .publicSide → ¬ listener.Hides front.hub raw.uri.path →
    listener.handle { front with hub := front.hub.onlyPublic } connection raw session =
      listener.handle front connection raw session
  /-- A body is answered for as a whole, in whatever pieces it arrives. -/
  pieces : ∀ frames : List Bytes, frames.flatten = raw.frames.flatten →
    listener.handle front connection { raw with frames } session =
      listener.handle front connection raw session

/-- The rules of a listener, in order; the two that refuse a length come to one. -/
theorem rules_eq (readable : Readable raw) :
    (listener.early? front raw session).or (bodyRefusal? front.bodyLimit raw) =
      (listener.report? front raw session).or ((methodRefusal? raw).or
        ((listener.routeRefusal? front.hub raw).or
          (if front.bodyLimit < raw.frames.flatten.length then some (tooLong front.bodyLimit)
            else none))) := by
  rw [early?, Option.or_assoc, Option.or_assoc, Option.or_assoc, lengthRefusal?_eq readable]

theorem handle_of_rule
    {answer : Response}
    (applies :
      (listener.early? front raw session).or (bodyRefusal? front.bodyLimit raw) = some answer) :
    listener.handle front connection raw session = (.done answer, session) := by
  simp only [handle, applies]

theorem handle_of_no_rule
    (silent : (listener.early? front raw session).or (bodyRefusal? front.bodyLimit raw) = none) :
    listener.handle front connection raw session = serve front connection raw session := by
  simp only [handle, silent]

/-- A readable request stays readable in other pieces. -/
theorem Readable.pieces
    (readable : Readable raw) {frames : List Bytes}
    (same : frames.flatten = raw.frames.flatten) : Readable { raw with frames } where
  whole := readable.whole
  declared found := (readable.declared found).trans (congrArg List.length same.symm)

/--
Every listener decides in the order of its rules about every request with a readable body: it reports,
refuses the method, hides the route, refuses the length, or lets the hub answer.
-/
theorem handle_decides
    (listener : Listener) (front : Front) (connection : Context) (raw : RawRequest)
    (session : Session) (readable : Readable raw) :
    Decided listener front connection raw session where
  report asks := by
    obtain ⟨answer, reported, first⟩ :
        ∃ answer, reportAt? front raw.uri.path session = some answer ∧
          listener.report? front raw session = some answer := report?_of_asks asks
    refine ⟨answer, reported, handle_of_rule ?_⟩
    rw [rules_eq readable, first, Option.some_or]
  unsupported asks unnamed := by
    refine ⟨handle_of_rule ?_, rfl⟩
    rw [rules_eq readable, report?_of_not_asks asks, methodRefusal?_of_not_named unnamed,
      Option.none_or, Option.some_or]
  hidden asks named hides := by
    refine ⟨handle_of_rule ?_, rfl⟩
    rw [rules_eq readable, report?_of_not_asks asks, methodRefusal?_of_named named,
      routeRefusal?_of_hides hides, Option.none_or, Option.none_or, Option.some_or]
  exceeded asks named hides long := by
    refine ⟨handle_of_rule ?_, rfl⟩
    rw [rules_eq readable, report?_of_not_asks asks, methodRefusal?_of_named named,
      routeRefusal?_of_not_hides hides, if_pos long, Option.none_or, Option.none_or,
      Option.none_or]
  hub asks named hides short := by
    rcases Method.ofString_of_named named with ⟨method, read, same⟩
    have silent :
        (listener.early? front raw session).or (bodyRefusal? front.bodyLimit raw) = none := by
      rw [rules_eq readable, report?_of_not_asks asks, methodRefusal?_of_named named,
        routeRefusal?_of_not_hides hides, if_neg (Nat.not_lt.mpr short), Option.none_or,
        Option.none_or, Option.none_or]
    exact ⟨method, same, (handle_of_no_rule silent).trans (serve_eq read readable.whole)⟩
  shown := by
    rintro rfl hides id method service found
    exact isPublic_of_not_hides hides found
  isolated := by
    rintro rfl hides
    have still : ¬ Listener.publicSide.Hides front.hub.onlyPublic raw.uri.path :=
      mt (hides_onlyPublic hides) hides
    have rules :
        (Listener.publicSide.early? { front with hub := front.hub.onlyPublic } raw session).or
            (bodyRefusal? front.bodyLimit raw) =
          (Listener.publicSide.early? front raw session).or (bodyRefusal? front.bodyLimit raw) := by
      have silent (front : Front) : Listener.publicSide.report? front raw session = none := rfl
      rw [early?, early?, silent, silent, routeRefusal?_of_not_hides hides,
        routeRefusal?_of_not_hides still]
    simp only [handle, rules, serve_onlyPublic hides]
  pieces frames same := by
    have rules :
        (listener.early? front { raw with frames } session).or
            (bodyRefusal? front.bodyLimit { raw with frames }) =
          (listener.early? front raw session).or (bodyRefusal? front.bodyLimit raw) := by
      rw [rules_eq readable, rules_eq (readable.pieces same), ← same]
      rfl
    simp only [handle, rules, serve_pieces same]

/-- A front whose hub has the service `Dispatch.withdrawing` alone, and no place for long bodies. -/
def counter : Front where
  hub := Dispatch.store
  health := .start Dispatch.morning
  bodyLimit := 4
  requestTimeout := some Session.second
  counts := none

/-- A request whose body arrives in two pieces, and declares its length. -/
def parcel : RawRequest where
  method := "post"
  uri := ⟨none, "", "/Shop//cart", none⟩
  version := .oneOne
  remote := none
  headers := Headers.set [] "content-length" (Bytes.ofString "+3")
  frames := [Bytes.ofString "ab", Bytes.ofString "c"]
  broken := none
  trailers := none

theorem handle_decides_parcel :
    Readable parcel ∧ Decided .publicSide counter (.ofToken []) parcel Dispatch.morning := by
  have readable : Readable parcel := by
    refine ⟨rfl, fun {length} declared => ?_⟩
    have three : Transport.declaredLength? parcel.headers = some 3 := by decide +kernel
    exact Option.some.inj (declared.symm.trans three)
  exact ⟨readable, handle_decides _ _ _ _ _ readable⟩

end Listener

end RequestHub
