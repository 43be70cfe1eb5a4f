import RequestHub.Proofs.Hub.Installed
import RequestHub.Proofs.Listener.Concealment

/-!
# Requests on the public listener while the hub changes

The public listener looks up the service of a request before it reads the body, and the hub looks it up
again when the body has been read.  `Traffic` is a hub in use with its visits: requests on the public
listener, each at the stage that it has reached.  Events come in any order, and an event is a change of
the hub, a new request, or the next step of one visit.

What the first look-up finds is public.  The second one finds the same, unless something was installed
under the same key in between, and then it may find a service that is not public.
-/

namespace RequestHub

/-- What has become of a request on the public listener. -/
inductive Stage where
  | arrived
  /-- The listener shows the route; so many services had been installed when it looked. -/
  | admitted (since : Nat)
  /-- The body has been read. -/
  | read (since : Nat)
  /-- The listener has answered, without the hub. -/
  | answered (response : Response)
  /-- The hub has no service for the request. -/
  | missed
  /-- The hub has found a service; so many services had been installed when the hub looked. -/
  | dispatched (service : Service) (since upTo : Nat)

/-- A request on the public listener. -/
structure Visit where
  raw : RawRequest
  stage : Stage

/-- A hub in use, with the requests on the public listener. -/
structure Traffic where
  site : Site
  visits : List Visit

/-- What happens next: the hub changes, a request comes, or a request that is there goes on. -/
inductive Event where
  | change (change : Change)
  | arrival (raw : RawRequest)
  | turn (index : Nat) (session : Session)

/-- The key under which the service for a request is found. -/
def RawRequest.key (raw : RawRequest) : String :=
  routingKey (Route.ofPath raw.uri.path).api (Route.ofPath raw.uri.path).service

namespace Visit

/-- What the hub does first with a request that the listener has read. -/
def looked (site : Site) (raw : RawRequest) (session : Session) (since : Nat) : Stage :=
  match Request.ofRaw session.freshId.1 raw with
  | .error failure => .answered (Listener.answer (.error (.unread failure)))
  | .ok request =>
      match site.hub.resolve request.route.api request.route.service with
      | none => .missed
      | some service => .dispatched service since site.installed.length

/-- A request at its next stage, in front of the hub as it is now. -/
def next (front : Front) (site : Site) (session : Session) (visit : Visit) : Visit :=
  match visit.stage with
  | .arrived =>
      match Listener.publicSide.early? { front with hub := site.hub } visit.raw session with
      | some response => { visit with stage := .answered response }
      | none => { visit with stage := .admitted site.installed.length }
  | .admitted since =>
      match Listener.bodyRefusal? front.bodyLimit visit.raw with
      | some response => { visit with stage := .answered response }
      | none => { visit with stage := .read since }
  | .read since => { visit with stage := looked site visit.raw session since }
  | _ => visit

end Visit

namespace Traffic

/-- A hub in which nothing has been installed, and no requests. -/
def fresh (application : String) (version : Option String) (assembly : Assembly) : Traffic where
  site := .fresh application version assembly
  visits := []

/-- The traffic after an event. -/
def step (front : Front) (traffic : Traffic) : Event → Traffic
  | .change change => { traffic with site := traffic.site.change change }
  | .arrival raw => { traffic with visits := traffic.visits ++ [⟨raw, .arrived⟩] }
  | .turn index session =>
      { traffic with visits := traffic.visits.modify index (·.next front traffic.site session) }

/-- The traffic after some events, one after another. -/
def after (front : Front) (traffic : Traffic) (events : List Event) : Traffic :=
  events.foldl (step front) traffic

end Traffic

/-! ## What a look-up finds after changes -/

namespace Site

/-- A change leaves what had been installed before it. -/
theorem installed_change (site : Site) (change : Change) :
    ∃ more, (site.change change).installed = site.installed ++ more := by
  cases change with
  | add service => exact ⟨_, rfl⟩
  | configure tree registries documents => exact ⟨_, rfl⟩

/-- The service under a key when so many services had been installed. -/
def foundAt (site : Site) (count : Nat) (key : String) : Option Service :=
  latest (·.key = key) (site.installed.take count)

/-- The service that was installed last under a key, of those that came between two counts. -/
def foundBetween (site : Site) (since upTo : Nat) (key : String) : Option Service :=
  latest (·.key = key) ((site.installed.take upTo).drop since)

theorem foundAt_change
    {site : Site} {count : Nat} (within : count ≤ site.installed.length) (change : Change)
    (key : String) : (site.change change).foundAt count key = site.foundAt count key := by
  rcases installed_change site change with ⟨more, installed⟩
  rw [foundAt, foundAt, installed, List.take_append_of_le_length within]

/-- What is found at a count was found before, or came in between. -/
theorem foundAt_eq
    {site : Site} {since upTo : Nat} (order : since ≤ upTo) (key : String) :
    site.foundAt upTo key = (site.foundBetween since upTo key).or (site.foundAt since key) := by
  have before : (site.installed.take upTo).take since = site.installed.take since := by
    rw [List.take_take, Nat.min_eq_left order]
  rw [foundAt, ← List.take_append_drop since (site.installed.take upTo), latest_append, before]
  rfl

/-- A hub answers for a route from all that has been installed. -/
theorem Viewed.foundAt_length {site : Site} (viewed : site.Viewed) (api name : String) :
    site.foundAt site.installed.length (routingKey api name) = site.hub.resolve api name := by
  rw [foundAt, List.take_length, viewed.resolve_eq]

end Site

/-! ## What the two look-ups of a request find -/

/-- The listener looked when so many services had been installed, and found none but a public one. -/
structure Checked (site : Site) (key : String) (since : Nat) : Prop where
  within : since ≤ site.installed.length
  shown : ∀ service, site.foundAt since key = some service → service.isPublic = true

/-- The hub looked after the listener, and found a service. -/
structure Delivered (site : Site) (key : String) (service : Service) (since upTo : Nat) : Prop where
  checked : Checked site key since
  order : since ≤ upTo
  within : upTo ≤ site.installed.length
  found : site.foundAt upTo key = some service

theorem Checked.change
    {site : Site} {key : String} {since : Nat} (checked : Checked site key since) (change : Change) :
    Checked (site.change change) key since where
  within := by
    rcases Site.installed_change site change with ⟨more, installed⟩
    rw [installed, List.length_append]
    exact Nat.le_add_right_of_le checked.within
  shown := by
    rw [Site.foundAt_change checked.within]
    exact checked.shown

theorem Delivered.change
    {site : Site} {key : String} {service : Service} {since upTo : Nat}
    (delivered : Delivered site key service since upTo) (change : Change) :
    Delivered (site.change change) key service since upTo where
  checked := delivered.checked.change change
  order := delivered.order
  within := by
    rcases Site.installed_change site change with ⟨more, installed⟩
    rw [installed, List.length_append]
    exact Nat.le_add_right_of_le delivered.within
  found := by
    rw [Site.foundAt_change delivered.within]
    exact delivered.found

/-- A service that is not public was installed under the key after the listener had looked. -/
theorem Delivered.public_or_late
    {site : Site} {key : String} {service : Service} {since upTo : Nat}
    (delivered : Delivered site key service since upTo) :
    service.isPublic = true ∨ site.foundBetween since upTo key = some service := by
  have found := delivered.found
  rw [Site.foundAt_eq delivered.order] at found
  rcases Option.or_eq_some_iff.mp found with late | ⟨-, before⟩
  · exact Or.inr late
  · exact Or.inl (delivered.checked.shown service before)

namespace Visit

/-- What is known of a request at its stage. -/
def Sound (site : Site) (visit : Visit) : Prop :=
  match visit.stage with
  | .admitted since | .read since => Checked site visit.raw.key since
  | .dispatched service since upTo => Delivered site visit.raw.key service since upTo
  | .arrived | .answered _ | .missed => True

/-- A change of the hub leaves what is known of a request. -/
theorem Sound.change
    {site : Site} {visit : Visit} (sound : visit.Sound site) (change : Change) :
    visit.Sound (site.change change) := by
  rcases visit with ⟨raw, stage⟩
  cases stage with
  | admitted since | read since => exact Checked.change sound change
  | dispatched service since upTo => exact Delivered.change sound change
  | arrived | answered response | missed => trivial

/-- A request that the listener lets pass leads to no service but a public one. -/
theorem checked_of_early?
    {front : Front} {site : Site} {session : Session} {raw : RawRequest} (viewed : site.Viewed)
    (passed : Listener.publicSide.early? { front with hub := site.hub } raw session = none) :
    Checked site raw.key site.installed.length where
  within := Nat.le_refl _
  shown := by
    intro service found
    have shows : ¬ Listener.publicSide.Hides site.hub raw.uri.path := by
      intro hides
      have refusal : Listener.publicSide.routeRefusal? site.hub raw = some _ :=
        @Listener.routeRefusal?_of_hides _ { front with hub := site.hub } _ hides
      simp [Listener.early?_eq, refusal] at passed
    rw [RawRequest.key, viewed.foundAt_length] at found
    exact Listener.isPublic_of_not_hides shows found

/-- The hub looks under the key under which the listener has looked. -/
theorem sound_looked
    {site : Site} {raw : RawRequest} {since : Nat} (viewed : site.Viewed)
    (checked : Checked site raw.key since) (session : Session) :
    Sound site ⟨raw, looked site raw session since⟩ := by
  unfold looked
  split
  · trivial
  · rename_i request read
    have routed : request.route = Route.ofPath raw.uri.path := Listener.route_of_ofRaw read
    split
    · trivial
    · rename_i service resolved
      have found : site.foundAt site.installed.length raw.key = some service := by
        rw [RawRequest.key, viewed.foundAt_length, ← routed]
        exact resolved
      exact ⟨checked, checked.within, Nat.le_refl _, found⟩

/-- The next step of a request keeps what is known of it. -/
theorem Sound.next
    {site : Site} {visit : Visit} (sound : visit.Sound site) (viewed : site.Viewed) (front : Front)
    (session : Session) : (visit.next front site session).Sound site := by
  rcases visit with ⟨raw, stage⟩
  cases stage with
  | arrived =>
      cases passed : Listener.publicSide.early? { front with hub := site.hub } raw session with
      | some response => simp [Visit.next, passed, Sound]
      | none => simpa [Visit.next, passed, Sound] using checked_of_early? viewed passed
  | admitted since =>
      cases refused : Listener.bodyRefusal? front.bodyLimit raw with
      | some response => simp [Visit.next, refused, Sound]
      | none => simpa [Visit.next, refused, Sound] using sound
  | read since => exact sound_looked viewed sound session
  | answered response | missed | dispatched service since upTo => exact sound

end Visit

/-! ## A request between whose steps nothing happens -/

namespace Visit

/-- The stage of a request after its three steps, in front of a hub that stays as it is. -/
def undisturbed (front : Front) (site : Site) (session : Session) (raw : RawRequest) : Stage :=
  let step := next front site session
  (step (step (step ⟨raw, .arrived⟩))).stage

/-- The hub reads a request that the listener has let pass, and finds what stands under its route. -/
theorem looked_eq
    {site : Site} {raw : RawRequest} (named : Method.Named raw.method) (whole : raw.broken = none)
    (session : Session) (since : Nat) :
    looked site raw session since =
      match site.hub.resolve (Route.ofPath raw.uri.path).api
        (Route.ofPath raw.uri.path).service with
      | none => .missed
      | some service => .dispatched service since site.installed.length := by
  rcases Method.ofString_of_named named with ⟨method, read, -⟩
  rw [looked, Listener.ofRaw_eq read whole]
  rfl

/-- How the listener answers a request that has come to a stage. -/
def Ends (front : Front) (connection : Context) (raw : RawRequest) (session : Session) :
    Stage → Prop
  | .answered response =>
      Listener.publicSide.handle front connection raw session = (.done response, session)
  | .missed =>
      front.hub.resolve (Route.ofPath raw.uri.path).api (Route.ofPath raw.uri.path).service = none ∧
        Listener.publicSide.handle front connection raw session =
          Listener.serve front connection raw session
  | .dispatched service _ _ =>
      front.hub.resolve (Route.ofPath raw.uri.path).api (Route.ofPath raw.uri.path).service =
          some service ∧
        Listener.publicSide.handle front connection raw session =
          Listener.serve front connection raw session
  | .arrived | .admitted _ | .read _ => False

/-- A request that nothing disturbs takes the course of the listener that handles it at once. -/
theorem ends_undisturbed
    (front : Front) (site : Site) (connection : Context) (session : Session) (raw : RawRequest) :
    Ends { front with hub := site.hub } connection raw session
      (undisturbed front site session raw) := by
  cases early : Listener.publicSide.early? { front with hub := site.hub } raw session with
  | some response =>
      have ended : undisturbed front site session raw = .answered response := by
        simp [undisturbed, next, early]
      rw [ended]
      exact Listener.handle_of_rule (by rw [early, Option.some_or])
  | none =>
      cases refused : Listener.bodyRefusal? front.bodyLimit raw with
      | some response =>
          have ended : undisturbed front site session raw = .answered response := by
            simp [undisturbed, next, early, refused]
          rw [ended]
          exact Listener.handle_of_rule (by rw [early, Option.none_or, refused])
      | none =>
          have served : Listener.publicSide.handle { front with hub := site.hub } connection raw
              session = Listener.serve { front with hub := site.hub } connection raw session :=
            Listener.handle_of_no_rule (by rw [early, Option.none_or, refused])
          have ended : undisturbed front site session raw =
              looked site raw session site.installed.length := by
            simp [undisturbed, next, early, refused]
          have whole : raw.broken = none := Listener.broken_of_bodyRefusal? refused
          rw [ended, looked_eq (Listener.named_of_early? early) whole]
          cases found : site.hub.resolve (Route.ofPath raw.uri.path).api
              (Route.ofPath raw.uri.path).service with
          | none => exact ⟨found, served⟩
          | some service => exact ⟨found, served⟩

end Visit

/-! ## All requests, after any events -/

namespace Traffic

/-- The table is a view of what has been installed, and what is known of every request holds. -/
structure Sound (traffic : Traffic) : Prop where
  viewed : traffic.site.Viewed
  visits : ∀ visit ∈ traffic.visits, visit.Sound traffic.site

theorem Sound.fresh (application : String) (version : Option String) (assembly : Assembly) :
    (fresh application version assembly).Sound where
  viewed := Site.Viewed.fresh application version assembly
  visits _ member := absurd member List.not_mem_nil

/-- Every event keeps what is known of the requests. -/
theorem Sound.step
    {traffic : Traffic} (sound : traffic.Sound) (front : Front) (event : Event) :
    (traffic.step front event).Sound := by
  rcases sound with ⟨viewed, visits⟩
  cases event with
  | change change =>
      exact ⟨viewed.change change, fun visit member => (visits visit member).change change⟩
  | arrival raw =>
      refine ⟨viewed, fun visit member => ?_⟩
      rcases List.mem_append.mp member with old | new
      · exact visits visit old
      · rw [List.mem_singleton.mp new]
        trivial
  | turn index session =>
      refine ⟨viewed, fun visit member => ?_⟩
      rcases List.mem_iff_getElem?.mp member with ⟨position, found⟩
      change (traffic.visits.modify index _)[position]? = some visit at found
      rw [List.getElem?_modify] at found
      rcases Option.map_eq_some_iff.mp found with ⟨before, at_position, rfl⟩
      have sound := visits before (List.mem_of_getElem? at_position)
      split
      · exact sound.next viewed front session
      · exact sound

theorem Sound.after
    {traffic : Traffic} (sound : traffic.Sound) (front : Front) (events : List Event) :
    (traffic.after front events).Sound := by
  induction events generalizing traffic with
  | nil => exact sound
  | cons event events ih => exact ih (sound.step front event)

/--
Whatever comes between the steps of a request on the public listener, the service to which it is
dispatched is public, or it was installed after the listener had looked and before the hub looked.
-/
theorem dispatched_public_or_late
    (front : Front) (application : String) (version : Option String) (assembly : Assembly)
    (events : List Event) {visit : Visit}
    (member : visit ∈ ((fresh application version assembly).after front events).visits)
    {service : Service} {since upTo : Nat} (dispatched : visit.stage = .dispatched service since upTo) :
    Delivered ((fresh application version assembly).after front events).site visit.raw.key service
        since upTo ∧
      (service.isPublic = true ∨
        ((fresh application version assembly).after front events).site.foundBetween since upTo
          visit.raw.key = some service) := by
  have known := ((Sound.fresh application version assembly).after front events).visits visit member
  rw [Visit.Sound, dispatched] at known
  exact ⟨known, known.public_or_late⟩

/-- The service of `pantry`, for everyone or not. -/
def shelf (isPublic : Bool) : Service :=
  { Service.make "kitchen" "pantry" with isPublic }

/-- A request for a service that is installed when the listener has looked and the hub has not. -/
def late (isPublic : Bool) : List Event :=
  [.arrival (Listener.delivery "salt"), .turn 0 Dispatch.morning, .change (.add (shelf isPublic)),
    .turn 0 Dispatch.morning, .turn 0 Dispatch.morning]

/-- The request is dispatched to a service that the listener has not seen. -/
theorem after_late (isPublic : Bool) :
    ((fresh "recipes" none .start).after (Listener.doorOf (Hub.make "recipes"))
        (late isPublic)).visits =
      [⟨Listener.delivery "salt", .dispatched (shelf isPublic) 0 1⟩] := by
  let door := Listener.doorOf (Hub.make "recipes")
  let before := Site.fresh "recipes" none .start
  let now := before.change (.add (shelf isPublic))
  have named : Method.Named (Listener.delivery "salt").method := ⟨.post, by decide +kernel⟩
  have admitted : Visit.next door before Dispatch.morning ⟨Listener.delivery "salt", .arrived⟩ =
      ⟨Listener.delivery "salt", .admitted 0⟩ := by
    have passed : Listener.publicSide.early? { door with hub := before.hub }
        (Listener.delivery "salt") Dispatch.morning = none := by
      have shown : Listener.publicSide.routeRefusal? before.hub (Listener.delivery "salt") = none :=
        @Listener.routeRefusal?_of_not_hides _ door (Listener.delivery "salt") Listener.vacant_shows
      rw [Listener.early?_eq, Listener.methodRefusal?_of_named named, shown]
      rfl
    simp only [Visit.next, passed]
    rfl
  have read : Visit.next door now Dispatch.morning ⟨Listener.delivery "salt", .admitted 0⟩ =
      ⟨Listener.delivery "salt", .read 0⟩ := by
    have short : Listener.bodyRefusal? door.bodyLimit (Listener.delivery "salt") = none := by
      decide +kernel
    simp only [Visit.next, short]
  have dispatched : Visit.next door now Dispatch.morning ⟨Listener.delivery "salt", .read 0⟩ =
      ⟨Listener.delivery "salt", .dispatched (shelf isPublic) 0 1⟩ := by
    have key : (Listener.delivery "salt").key = (Service.make "kitchen" "pantry").key := by
      decide +kernel
    have found : now.hub.resolve (Route.ofPath (Listener.delivery "salt").uri.path).api
        (Route.ofPath (Listener.delivery "salt").uri.path).service = some (shelf isPublic) :=
      (Hub.resolve_install ..).trans (if_pos key)
    have looked : Visit.looked now (Listener.delivery "salt") Dispatch.morning 0 =
        .dispatched (shelf isPublic) 0 1 := by
      rw [Visit.looked_eq named rfl, found]
      rfl
    simp only [Visit.next, looked]
  change [Visit.next door now _ (Visit.next door now _ (Visit.next door before _ _))] = _
  rw [admitted, read, dispatched]

theorem dispatched_public_or_late_delivery :
    ∃ visit ∈ ((fresh "recipes" none .start).after (Listener.doorOf (Hub.make "recipes"))
        (late true)).visits, ∃ service,
      visit.stage = .dispatched service 0 1 ∧
        Delivered ((fresh "recipes" none .start).after (Listener.doorOf (Hub.make "recipes"))
          (late true)).site visit.raw.key service 0 1 ∧
        (service.isPublic = true ∨
          ((fresh "recipes" none .start).after (Listener.doorOf (Hub.make "recipes"))
            (late true)).site.foundBetween 0 1 visit.raw.key = some service) := by
  have member := (after_late true).symm ▸ List.mem_singleton_self
    (⟨Listener.delivery "salt", .dispatched (shelf true) 0 1⟩ : Visit)
  exact ⟨_, member, shelf true, rfl,
    dispatched_public_or_late _ "recipes" none .start (late true) member rfl⟩

/-- A request on the public listener can be dispatched to a service that is not public. -/
theorem dispatched_not_public :
    ∃ visit ∈ ((fresh "recipes" none .start).after (Listener.doorOf (Hub.make "recipes"))
        (late false)).visits, ∃ service since upTo,
      visit.stage = .dispatched service since upTo ∧ service.isPublic = false := by
  rw [after_late]
  exact ⟨_, List.mem_singleton_self _, shelf false, 0, 1, rfl, rfl⟩

end Traffic

end RequestHub
