import RequestHub.Proofs.Listener.Decision

/-!
# What the public listener tells of services that are not public

Two hubs with the same public services may differ in all others.  The public listener answers a request
in the same way in front of both, to the last byte, unless its path leads to a service that is not
public in one hub and to no service in the other.  The first hub answers such a request before the body
is looked at, and the report of the failure names no request.  The second one refuses a body that is too
long or breaks off, and the report of a missing service names the request.  So the two answers are never
the same, although both are reports that there is no such service whenever the body is in order.
-/

namespace RequestHub

namespace Hub

/-- Two hubs have the same public services on the same routes. -/
def SamePublic (left right : Hub) : Prop :=
  ∀ api name service, service.isPublic = true →
    (left.resolve api name = some service ↔ right.resolve api name = some service)

theorem SamePublic.symm {left right : Hub} (same : left.SamePublic right) :
    right.SamePublic left :=
  fun api name service shown => (same api name service shown).symm

end Hub

namespace Failure.Report

/-- A report that names a request is written in other bytes than the same report without a request. -/
theorem written_ne (failure : Failure) (id : String) :
    Bytes.ofString (failure.report (some id)).toJson.render ≠
      Bytes.ofString (failure.report none).toJson.render := by
  have behind : ¬ "requestId" < "error" := by decide
  have apart : "requestId" ≠ "error" := by decide
  intro same
  -- Up to the end of the inner object both texts are the same; then a comma meets a brace.
  simp [toJson, Failure.report, Json.ofMembers, Names.ofList, Names.insert, behind, apart,
    Json.render, Json.renderChars, Json.renderMembers, Bytes.ofString, String.utf8EncodeChar] at same

end Failure.Report

namespace Listener

variable {front : Front} {other : Hub} {connection : Context} {raw : RawRequest} {session : Session}

/-! ## Hubs with the same public services -/

/-- What neither of two hubs hides leads to the same service in both. -/
theorem resolve_of_not_hides
    {left right : Hub} (same : left.SamePublic right) {path : String}
    (leftShows : ¬ Listener.publicSide.Hides left path)
    (rightShows : ¬ Listener.publicSide.Hides right path) :
    left.resolve (Route.ofPath path).api (Route.ofPath path).service =
      right.resolve (Route.ofPath path).api (Route.ofPath path).service := by
  cases found : left.resolve (Route.ofPath path).api (Route.ofPath path).service with
  | some service =>
      exact ((same _ _ _ (isPublic_of_not_hides leftShows found)).mp found).symm
  | none =>
      cases others : right.resolve (Route.ofPath path).api (Route.ofPath path).service with
      | none => rfl
      | some service =>
          have back := (same _ _ _ (isPublic_of_not_hides rightShows others)).mpr others
          exact nomatch found.symm.trans back

/-- Where one hub hides a service and the other does not, the other has no service. -/
theorem resolve_eq_none_of_hides
    {left right : Hub} (same : left.SamePublic right) {path : String}
    (leftHides : Listener.publicSide.Hides left path)
    (rightShows : ¬ Listener.publicSide.Hides right path) :
    right.resolve (Route.ofPath path).api (Route.ofPath path).service = none := by
  rcases leftHides with internal | ⟨hidden, found, closed⟩
  · exact absurd (Or.inl internal) rightShows
  · cases others : right.resolve (Route.ofPath path).api (Route.ofPath path).service with
    | none => rfl
    | some service =>
        have shown := isPublic_of_not_hides rightShows others
        have back := found.symm.trans ((same _ _ _ shown).mpr others)
        rw [Option.some.inj back, shown] at closed
        cases closed

/-! ## The answers in front of two hubs -/

/-- The public listener decides by what its hub hides, and by nothing else that its hub has. -/
theorem early?_eq (front : Front) (hub : Hub) :
    Listener.publicSide.early? { front with hub } raw session =
      ((methodRefusal? raw).or (Listener.publicSide.routeRefusal? hub raw)).or
        (declaredRefusal? front.bodyLimit raw) := rfl

/-- A request whose method is unknown is refused whatever the hub is. -/
theorem handle_of_not_named (unnamed : ¬ Method.Named raw.method) :
    Listener.publicSide.handle front connection raw session =
      (.done (refused (.unsupportedMethod raw.method)), session) := by
  refine handle_of_rule ?_
  rw [early?_eq front front.hub, methodRefusal?_of_not_named unnamed, Option.some_or,
    Option.some_or, Option.some_or]

/-- A path that is hidden is answered for before the body counts. -/
theorem handle_of_hides
    (front : Front) (named : Method.Named raw.method)
    (hides : Listener.publicSide.Hides front.hub raw.uri.path) :
    Listener.publicSide.handle front connection raw session =
      (.done (refused (unseen raw.uri.path)), session) := by
  refine handle_of_rule ?_
  rw [early?_eq front front.hub, methodRefusal?_of_named named,
    routeRefusal?_of_hides hides, Option.none_or, Option.some_or, Option.some_or]

/-- The refusal of a body, by its declared length, its length, or the break in it. -/
def sizeRefusal? (limit : Nat) (raw : RawRequest) : Option Response :=
  (declaredRefusal? limit raw).or (bodyRefusal? limit raw)

/-- A path that is not hidden leaves the decision to the body and then to the hub. -/
theorem handle_of_not_hides
    (front : Front) (named : Method.Named raw.method)
    (shows : ¬ Listener.publicSide.Hides front.hub raw.uri.path) :
    Listener.publicSide.handle front connection raw session =
      match sizeRefusal? front.bodyLimit raw with
      | some answer => (.done answer, session)
      | none => serve front connection raw session := by
  have rules : (Listener.publicSide.early? front raw session).or
      (bodyRefusal? front.bodyLimit raw) = sizeRefusal? front.bodyLimit raw := by
    rw [early?_eq front front.hub, methodRefusal?_of_named named,
      routeRefusal?_of_not_hides shows, Option.none_or, Option.none_or, sizeRefusal?]
  cases refusal : sizeRefusal? front.bodyLimit raw with
  | some answer => simp only [handle, rules, refusal]
  | none => simp only [handle, rules, refusal]

/-- No refusal of a body says that something was not found. -/
theorem status_of_sizeRefusal?
    {limit : Nat} {answer : Response} (refusal : sizeRefusal? limit raw = some answer) :
    answer.status = .payloadTooLarge ∨ answer.status = .badRequest := by
  rcases Option.or_eq_some_iff.mp refusal with declared | ⟨-, counted⟩
  · unfold declaredRefusal? at declared
    split at declared
    · split at declared
      · exact Or.inl (Option.some.inj declared ▸ rfl)
      · cases declared
    · cases declared
  · unfold bodyRefusal? at counted
    split at counted
    · exact Or.inl (Option.some.inj counted ▸ rfl)
    · rcases Option.map_eq_some_iff.mp counted with ⟨message, -, rfl⟩
      exact Or.inr rfl

/-- The answer of a hub that has no service for a path to the request that got an identifier. -/
def missed (raw : RawRequest) (id : Uuid) : Response :=
  reported .notFound ((unseen raw.uri.path).report (some id.text))

/-- The reports that there is no service differ in the request that one of them names. -/
theorem missed_like_refused (raw : RawRequest) (id : Uuid) :
    (missed raw id).status = (refused (unseen raw.uri.path)).status ∧
      (missed raw id).headers = (refused (unseen raw.uri.path)).headers ∧
      (missed raw id).body ≠ (refused (unseen raw.uri.path)).body := by
  have body (status : Status) (report : Failure.Report) :
      (reported status report).body = Bytes.ofString report.toJson.render := rfl
  refine ⟨rfl, rfl, ?_⟩
  rw [missed, refused, body, body]
  exact Failure.Report.written_ne _ _

/-- A hub without a service for the path says so, and names the request. -/
theorem serve_of_no_service
    (front : Front) (named : Method.Named raw.method) (silent : sizeRefusal? front.bodyLimit raw = none)
    (missing :
      front.hub.resolve (Route.ofPath raw.uri.path).api (Route.ofPath raw.uri.path).service = none)
    {context : Context} {opened : Session}
    (bounded : bounded? front connection session = some (context, opened)) :
    ∃ later, serve front connection raw session = (.done (missed raw opened.freshId.1), later) := by
  rcases Method.ofString_of_named named with ⟨method, read, -⟩
  have whole : raw.broken = none := broken_of_bodyRefusal? (Option.or_eq_none_iff.mp silent).2
  obtain ⟨inside, asked⟩ : ∃ inside : Scope × Session,
      Work.run (front.hub.handle context) (arrived opened.freshId.1 method raw) opened.freshId.2 =
        front.hub.route context inside.1 (arrived opened.freshId.1 method raw) inside.2 :=
    ⟨Dispatch.spanned _ _ _, rfl⟩
  refine ⟨inside.2, ?_⟩
  have routed : front.hub.route context inside.1 (arrived opened.freshId.1 method raw) inside.2 =
      (.done (.error
          ⟨.notFound, unseen raw.uri.path, some opened.freshId.1, none⟩),
        arrived opened.freshId.1 method raw, inside.2) := by
    have found : front.hub.resolve (arrived opened.freshId.1 method raw).route.api
        (arrived opened.freshId.1 method raw).route.service = none := missing
    have request : Work.request inside.1 (arrived opened.freshId.1 method raw) inside.2 =
        (.done (arrived opened.freshId.1 method raw), _, _) := rfl
    rw [Hub.route, Work.bind_of_done request, found]
    rfl
  rw [serve_eq read whole]
  simp only [dispatched, bounded]
  rw [asked, routed]
  rfl

/-- The answer for a service that is hidden is not the answer for a service that does not exist. -/
theorem handle_ne_of_hides
    (front : Front) (same : front.hub.SamePublic other) (named : Method.Named raw.method)
    (hides : Listener.publicSide.Hides front.hub raw.uri.path)
    (shows : ¬ Listener.publicSide.Hides other raw.uri.path) :
    (Listener.publicSide.handle front connection raw session).1 ≠
      (Listener.publicSide.handle { front with hub := other } connection raw session).1 := by
  rw [handle_of_hides front named hides,
    handle_of_not_hides { front with hub := other } named shows]
  split
  · rename_i answer refusal
    intro equal
    have status : Status.notFound = answer.status :=
      congrArg Response.status (Outcome.done.inj equal)
    rcases status_of_sizeRefusal? refusal with other | other <;> rw [other] at status <;> cases status
  · rename_i silent
    cases bounded : bounded? { front with hub := other } connection session with
    | none =>
        simp only [serve, bounded]
        intro equal
        cases equal
    | some bound =>
        have missing := resolve_eq_none_of_hides same hides shows
        rcases serve_of_no_service _ named silent missing bounded with ⟨later, served⟩
        rw [served]
        intro equal
        have bodies := congrArg Response.body (Outcome.done.inj equal)
        exact (missed_like_refused raw _).2.2 bodies.symm

/-! ## What the two answers have in common -/

/--
The answers of the public listener in front of two hubs with the same public services.
-/
structure Concealed
    (front : Front) (other : Hub) (connection : Context) (raw : RawRequest) (session : Session) :
    Prop where
  /-- The answers are the same exactly if the path is hidden in front of both hubs or of none. -/
  alike_iff :
    (Listener.publicSide.handle front connection raw session).1 =
        (Listener.publicSide.handle { front with hub := other } connection raw session).1 ↔
      (Method.Named raw.method →
        (Listener.publicSide.Hides front.hub raw.uri.path ↔
          Listener.publicSide.Hides other raw.uri.path))
  /-- Where the answers are the same, so is all that was done for them. -/
  alike :
    (Listener.publicSide.handle front connection raw session).1 =
        (Listener.publicSide.handle { front with hub := other } connection raw session).1 →
      Listener.publicSide.handle front connection raw session =
        Listener.publicSide.handle { front with hub := other } connection raw session
  /-- A path that is hidden has one answer, whatever the hub hides and whatever the body is. -/
  hidden : Method.Named raw.method → Listener.publicSide.Hides front.hub raw.uri.path →
    Listener.publicSide.handle front connection raw session =
      (.done (refused (unseen raw.uri.path)), session)
  /-- Where the other hub does not hide the path, it has no service, and the body is looked at first. -/
  measured : Method.Named raw.method → Listener.publicSide.Hides front.hub raw.uri.path →
    ¬ Listener.publicSide.Hides other raw.uri.path →
    ∀ {answer}, sizeRefusal? front.bodyLimit raw = some answer →
      Listener.publicSide.handle { front with hub := other } connection raw session =
        (.done answer, session)
  absent : Method.Named raw.method → Listener.publicSide.Hides front.hub raw.uri.path →
    ¬ Listener.publicSide.Hides other raw.uri.path → sizeRefusal? front.bodyLimit raw = none →
    ∀ {context opened}, bounded? front connection session = some (context, opened) →
      ∃ later,
        Listener.publicSide.handle { front with hub := other } connection raw session =
          (.done (missed raw opened.freshId.1), later)
  /-- For a body that is in order both say that there is no service, but one names the request. -/
  told : ∀ id,
    (missed raw id).status = (refused (unseen raw.uri.path)).status ∧
      (missed raw id).headers = (refused (unseen raw.uri.path)).headers ∧
      (missed raw id).body ≠ (refused (unseen raw.uri.path)).body

/--
In front of two hubs with the same public services the public listener answers alike, unless its path
leads to a service that one hub hides and the other does not have.
-/
theorem answers_concealed
    (front : Front) (other : Hub) (connection : Context) (raw : RawRequest) (session : Session)
    (same : front.hub.SamePublic other) : Concealed front other connection raw session := by
  have together
      (agree : Method.Named raw.method →
        (Listener.publicSide.Hides front.hub raw.uri.path ↔
          Listener.publicSide.Hides other raw.uri.path)) :
      Listener.publicSide.handle front connection raw session =
        Listener.publicSide.handle { front with hub := other } connection raw session := by
    by_cases named : Method.Named raw.method
    · by_cases hides : Listener.publicSide.Hides front.hub raw.uri.path
      · rw [handle_of_hides front named hides,
          handle_of_hides { front with hub := other } named ((agree named).mp hides)]
      · have shows := mt (agree named).mpr hides
        rw [handle_of_not_hides front named hides,
          handle_of_not_hides { front with hub := other } named shows,
          serve_congr (resolve_of_not_hides same hides shows).symm]
    · rw [handle_of_not_named named, handle_of_not_named named]
  have alike_iff :
      (Listener.publicSide.handle front connection raw session).1 =
          (Listener.publicSide.handle { front with hub := other } connection raw session).1 ↔
        (Method.Named raw.method →
          (Listener.publicSide.Hides front.hub raw.uri.path ↔
            Listener.publicSide.Hides other raw.uri.path)) := by
    refine ⟨fun equal named => ⟨fun hides => ?_, fun hides => ?_⟩, fun agree => by rw [together agree]⟩
    · by_contra shows
      exact handle_ne_of_hides front same named hides shows equal
    · by_contra shows
      exact handle_ne_of_hides { front with hub := other } same.symm named hides shows
        equal.symm
  exact {
    alike_iff
    alike := fun equal => together (alike_iff.mp equal)
    hidden := handle_of_hides front
    measured := by
      intro named hides shows answer refusal
      rw [handle_of_not_hides { front with hub := other } named shows]
      simp only [refusal]
    absent := by
      intro named hides shows silent context opened bounded
      have missing := resolve_eq_none_of_hides same hides shows
      rw [handle_of_not_hides { front with hub := other } named shows]
      simp only [silent]
      exact serve_of_no_service { front with hub := other } named silent missing bounded
    told := missed_like_refused raw }

/-- A hub with one service, which is not public. -/
def pantry : Hub :=
  (Hub.make "recipes").install (Service.make "kitchen" "pantry")

/-- A front with no place for long bodies. -/
def doorOf (hub : Hub) : Front where
  hub := hub
  health := .start Dispatch.morning
  bodyLimit := 4
  requestTimeout := none
  counts := none

/-- A request for the service of `pantry`, with some body. -/
def delivery (body : String) : RawRequest where
  method := "POST"
  uri := ⟨none, "", "/kitchen/pantry", none⟩
  version := .oneOne
  remote := none
  headers := []
  frames := [Bytes.ofString body]
  broken := none
  trailers := none

theorem pantry_samePublic : pantry.SamePublic (Hub.make "recipes") := by
  intro api name service shown
  have nothing : (Hub.make "recipes").resolve api name = none := rfl
  rw [pantry, Hub.resolve_install, nothing]
  split
  · constructor
    · rintro ⟨⟩
      cases shown
    · rintro ⟨⟩
  · exact Iff.rfl

theorem pantry_hides : Listener.publicSide.Hides pantry "/kitchen/pantry" := by
  refine Or.inr ⟨Service.make "kitchen" "pantry", ?_, rfl⟩
  have key : routingKey (Route.ofPath "/kitchen/pantry").api (Route.ofPath "/kitchen/pantry").service =
      (Service.make "kitchen" "pantry").key := by decide +kernel
  rw [pantry, Hub.resolve_install, if_pos key]

theorem vacant_shows : ¬ Listener.publicSide.Hides (Hub.make "recipes") "/kitchen/pantry" := by
  rintro (internal | ⟨service, found, -⟩)
  · exact absurd internal (by decide +kernel)
  · cases found

theorem answers_concealed_pantry :
    (doorOf pantry).hub.SamePublic (Hub.make "recipes") ∧
      Concealed (doorOf pantry) (Hub.make "recipes") (.ofToken []) (delivery "salt")
        Dispatch.morning :=
  ⟨pantry_samePublic, answers_concealed _ _ _ _ _ pantry_samePublic⟩

/--
A long body tells the service of `pantry`, which is hidden, from one that does not exist: with the service
the answer is that there is none, and without it the answer is that the body is too long.
-/
theorem long_body_tells_pantry :
    pantry.SamePublic (Hub.make "recipes") ∧
      ∃ hidden absent,
        Listener.publicSide.handle (doorOf pantry) (.ofToken []) (delivery "flour")
            Dispatch.morning = (.done hidden, Dispatch.morning) ∧
          Listener.publicSide.handle (doorOf (Hub.make "recipes")) (.ofToken []) (delivery "flour")
            Dispatch.morning = (.done absent, Dispatch.morning) ∧
          hidden.status = .notFound ∧ absent.status = .payloadTooLarge := by
  have named : Method.Named (delivery "flour").method := ⟨.post, by decide +kernel⟩
  have shows : ¬ Listener.publicSide.Hides (Hub.make "recipes") (delivery "flour").uri.path :=
    vacant_shows
  have long : sizeRefusal? 4 (delivery "flour") = some (tooLong 4) := by
    have undeclared : declaredRefusal? 4 (delivery "flour") = none := rfl
    have above : 4 < (delivery "flour").frames.flatten.length := by decide +kernel
    rw [sizeRefusal?, undeclared, Option.none_or, bodyRefusal?, if_pos above]
  refine ⟨pantry_samePublic, _, tooLong 4,
    handle_of_hides (doorOf pantry) named pantry_hides, ?_, rfl, rfl⟩
  rw [handle_of_not_hides (doorOf (Hub.make "recipes")) named shows]
  simp only [doorOf, long]

end Listener

end RequestHub
