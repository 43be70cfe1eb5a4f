import RequestHub.Proofs.Hub.Installed
import RequestHub.Proofs.Route.Key

/-!
# Where paths lead

The prefix of internal calls changes nothing about a route: a path and the same path with the prefix
lead to the same service, the one that was installed last under the two names that the path spells.
A path that spells less than two names leads nowhere in a hub that was only ever configured, because
documents cannot describe a service without both of its names.
-/

namespace RequestHub

namespace Route

/-- What stands between two slashes of a path, if it is not empty. -/
structure Segment where
  text : String
  nonempty : text ≠ ""
  whole : Text.Whole text

/-- What may follow the second segment of a path: nothing, or a slash and whatever is behind it. -/
structure Tail where
  text : String
  headed : text = "" ∨ ∃ rest, text.toList = '/' :: rest

/-- The path that spells two segments. -/
def spelled (api name : Segment) (tail : Tail) : String :=
  "/" ++ api.text ++ "/" ++ name.text ++ tail.text

/-! ## The prefix of internal calls -/

@[simp]
theorem dropInternal?_eq_some_iff (path inner : List Char) :
    dropInternal? path = some inner ↔
      path = internalPrefix.toList ++ inner ∧ (inner = [] ∨ ∃ rest, inner = '/' :: rest) := by
  rw [← Text.dropLead?_eq_some_iff]
  unfold dropInternal?
  split
  · rename_i found
    rw [found]
    constructor
    · rintro ⟨⟩
      exact ⟨rfl, Or.inl rfl⟩
    · rintro ⟨⟨⟩, -⟩
      rfl
  · rename_i rest found
    rw [found]
    constructor
    · rintro ⟨⟩
      exact ⟨rfl, Or.inr ⟨rest, rfl⟩⟩
    · rintro ⟨⟨⟩, -⟩
      rfl
  · rename_i notEmpty notSlash
    constructor
    · rintro ⟨⟩
    · rintro ⟨found, rfl | ⟨rest, rfl⟩⟩
      · exact absurd found notEmpty
      · exact absurd found (notSlash rest)

/-- A path is that of an internal call exactly if its route leads along another path. -/
theorem isInternal_iff (path : String) : isInternal path = true ↔ (ofPath path).path ≠ path := by
  unfold isInternal ofPath
  cases found : dropInternal? path.toList with
  | none => simp
  | some inner =>
      have parts := ((dropInternal?_eq_some_iff ..).mp found).1
      simp only [Option.isSome_some, Option.getD_some, true_iff]
      intro same
      have lengths := congrArg List.length parts
      rw [← same, String.toList_ofList, List.length_append] at lengths
      have lead : internalPrefix.toList.length = 14 := by decide
      omega

theorem ofPath_of_not_internal {path : String} (outside : isInternal path = false) :
    ofPath path =
      { api := String.ofList ((segments path.toList).getD 0 [])
        service := String.ofList ((segments path.toList).getD 1 [])
        path } := by
  have kept : dropInternal? path.toList = none := by
    simpa [isInternal] using outside
  simp [ofPath, kept]

/-! ## Paths that spell two segments -/

section

variable (api name : Segment) (tail : Tail)

theorem toList_spelled :
    (spelled api name tail).toList =
      '/' :: (api.text.toList ++ (['/'] ++ (name.text.toList ++ tail.text.toList))) := by
  simp [spelled]

/-- The first two parts of a path are the segments that it spells. -/
theorem segments_spelled :
    ∃ more,
      segments (spelled api name tail).toList =
        api.text.toList :: name.text.toList :: more := by
  have present (segment : Segment) : segment.text.toList ≠ [] :=
    fun empty => segment.nonempty (String.toList_inj.mp empty)
  have stays (segment : Segment) : ∀ char ∈ segment.text.toList, decide (char = '/') = false :=
    fun char member => decide_eq_false fun slash => segment.whole (slash ▸ member)
  obtain ⟨rest, shorter, trimmed⟩ := Text.trimBy_append (present api) (stays api) (present name)
    (stays name) ['/'] tail.text.toList
  have first : Text.cut '/' (api.text.toList ++ (['/'] ++ (name.text.toList ++ rest))) =
      api.text.toList :: Text.cut '/' (name.text.toList ++ rest) :=
    Text.cut_append_cons api.whole _
  have opened (items : List Char) :
      Text.trimBy (fun char => decide (char = '/')) ('/' :: items) =
        Text.trimBy (fun char => decide (char = '/')) items :=
    Text.trimBy_cons rfl items
  rw [segments, toList_spelled, opened, trimmed, first]
  -- What trimming leaves of the tail is empty or still begins with the slash of the tail.
  have headed : rest = [] ∨ ∃ behind, rest = '/' :: behind := by
    rcases tail.headed with empty | ⟨behind, slash⟩
    · left
      rw [empty] at shorter
      exact List.prefix_nil.mp shorter
    · rw [slash] at shorter
      rcases List.prefix_cons_iff.mp shorter with empty | ⟨kept, found, -⟩
      · exact Or.inl empty
      · exact Or.inr ⟨kept, found⟩
  rcases headed with rfl | ⟨behind, rfl⟩
  · exact ⟨[], by rw [List.append_nil, Text.cut_of_not_mem name.whole]⟩
  · exact ⟨_, by rw [Text.cut_append_cons name.whole]⟩

/-- A path that is not that of an internal call leads to the segments that it spells. -/
theorem ofPath_spelled (outside : isInternal (spelled api name tail) = false) :
    ofPath (spelled api name tail) = ⟨api.text, name.text, spelled api name tail⟩ := by
  rcases segments_spelled api name tail with ⟨more, parts⟩
  rw [ofPath_of_not_internal outside, parts]
  simp

@[simp]
theorem dropInternal?_called :
    dropInternal? (internalPrefix ++ spelled api name tail).toList =
      some (spelled api name tail).toList := by
  refine (dropInternal?_eq_some_iff ..).mpr ⟨String.toList_append, Or.inr ?_⟩
  exact ⟨_, toList_spelled api name tail⟩

/-- Behind the prefix of internal calls a path leads to the segments that it spells. -/
@[simp]
theorem ofPath_called :
    ofPath (internalPrefix ++ spelled api name tail) =
      ⟨api.text, name.text, spelled api name tail⟩ := by
  rcases segments_spelled api name tail with ⟨more, parts⟩
  simp only [ofPath, dropInternal?_called, Option.getD_some, parts]
  simp

end

/-! ## Paths that spell less than two segments -/

/-- A path whose first two parts are not both there, with the prefix of internal calls or without. -/
def Short (path : String) : Prop :=
  ((segments path.toList).getD 0 [] = [] ∨ (segments path.toList).getD 1 [] = []) ∨
    (ofPath path).api = "" ∨ (ofPath path).service = ""

/-- The first segment of the prefix of internal calls. -/
def internal : Segment := ⟨"internal", by decide, by decide⟩

/-- The second segment of the prefix of internal calls. -/
def call : Segment := ⟨"call", by decide, by decide⟩

theorem spelled_of_isInternal {path : String} (inside : isInternal path = true) :
    ∃ tail, path = spelled internal call tail := by
  rcases Option.isSome_iff_exists.mp inside with ⟨inner, found⟩
  rcases (dropInternal?_eq_some_iff ..).mp found with ⟨spelling, headed⟩
  refine ⟨⟨String.ofList inner, ?_⟩, String.toList_inj.mp ?_⟩
  · simpa only [String.ofList_eq_empty_iff, String.toList_ofList] using headed
  · rw [spelling, toList_spelled]
    simp [internal, call, internalPrefix]

/-- A short path is not that of an internal call, so that its route lacks the names that it lacks. -/
theorem Short.route {path : String} (short : Short path) :
    (ofPath path).api = "" ∨ (ofPath path).service = "" := by
  rcases short with parts | route
  · cases outside : isInternal path with
    | false =>
        rw [ofPath_of_not_internal outside]
        simpa only [String.ofList_eq_empty_iff] using parts
    | true =>
        -- The prefix alone makes for two parts.
        rcases spelled_of_isInternal outside with ⟨tail, rfl⟩
        rcases segments_spelled internal call tail with ⟨more, present⟩
        rw [present] at parts
        simp [internal, call] at parts
  · exact route

theorem whole_part (chars : List Char) (index : Nat) :
    Text.Whole (String.ofList ((segments chars).getD index [])) := by
  rw [Text.Whole, String.toList_ofList]
  cases found : (segments chars)[index]? with
  | none => simp [List.getD, found]
  | some piece =>
      have member : piece ∈ segments chars := List.mem_of_getElem? found
      simpa [List.getD, found] using Text.not_mem_of_mem_cut member

theorem whole_api (path : String) : Text.Whole (ofPath path).api := whole_part _ 0

theorem whole_service (path : String) : Text.Whole (ofPath path).service := whole_part _ 1

end Route

/-- The service to which a path leads. -/
def Hub.serviceAt (hub : Hub) (path : String) : Option Service :=
  hub.resolve (Route.ofPath path).api (Route.ofPath path).service

/-! ## Hubs that are only configured -/

/-- A change is a configuration from a home. -/
def Change.IsConfiguration : Change → Prop
  | .add _ => False
  | .configure .. => True

theorem Compile.installed_named
    {tree : FileTree} {registries : Registries} {documents : Home} {assembly : Assembly}
    {service : Service} (member : service ∈ installed tree registries documents assembly) :
    service.api ≠ "" ∧ service.name ≠ "" := by
  unfold installed at member
  split at member
  · rename_i ended
    rcases List.mem_map.mp member with ⟨pair, filed, rfl⟩
    exact (home_filed ended).1.named filed
  · cases member

namespace Site

theorem named_after
    {site : Site} (named : ∀ service ∈ site.installed, service.api ≠ "" ∧ service.name ≠ "")
    {changes : List Change} (configures : ∀ change ∈ changes, change.IsConfiguration) :
    ∀ service ∈ (site.after changes).installed, service.api ≠ "" ∧ service.name ≠ "" := by
  induction changes generalizing site with
  | nil => exact named
  | cons change changes ih =>
      rcases List.forall_mem_cons.mp configures with ⟨first, rest⟩
      refine ih ?_ rest
      cases change with
      | add service => exact first.elim
      | configure tree registries documents =>
          intro service member
          rcases List.mem_append.mp member with before | compiled
          · exact named service before
          · exact Compile.installed_named compiled

/-- For names without slashes a hub finds the service that was installed last under these names. -/
theorem Viewed.resolve_whole
    {site : Site} (viewed : site.Viewed) {api name : String}
    (apiWhole : Text.Whole api) (nameWhole : Text.Whole name) :
    site.hub.resolve api name =
      latest (fun service =>
        Text.lower service.api = Text.lower api ∧ Text.lower service.name = Text.lower name)
        site.installed := by
  rw [viewed.resolve_eq]
  have same (service : Service) : service.key = routingKey api name ↔
      Text.lower service.api = Text.lower api ∧ Text.lower service.name = Text.lower name :=
    routingKey_eq_iff apiWhole nameWhole service.api service.name
  simp only [same]

/-- Where all services have both names, a path that spells less leads to none. -/
theorem Viewed.resolve_short
    {site : Site} (viewed : site.Viewed)
    (named : ∀ service ∈ site.installed, service.api ≠ "" ∧ service.name ≠ "")
    {path : String} (short : Route.Short path) :
    site.hub.serviceAt path = none := by
  rw [Hub.serviceAt, viewed.resolve_whole (Route.whole_api path) (Route.whole_service path)]
  apply Option.not_isSome_iff_eq_none.mp
  intro present
  rcases (latest_isSome_iff ..).mp present with ⟨service, member, alike⟩
  rcases of_decide_eq_true alike with ⟨apiAlike, nameAlike⟩
  rcases named service member with ⟨api, name⟩
  rcases short.route with empty | empty
  · rw [empty, (Text.lower_eq_empty_iff "").mpr rfl, Text.lower_eq_empty_iff] at apiAlike
    exact api apiAlike
  · rw [empty, (Text.lower_eq_empty_iff "").mpr rfl, Text.lower_eq_empty_iff] at nameAlike
    exact name nameAlike

end Site

/-! ## Where paths lead -/

/-- A path that spells two segments leads to the same place with the prefix of internal calls. -/
structure Route.Transparent (api name : Segment) (tail : Tail) : Prop where
  plain : ofPath (spelled api name tail) = ⟨api.text, name.text, spelled api name tail⟩
  called : ofPath (internalPrefix ++ spelled api name tail) =
    ⟨api.text, name.text, spelled api name tail⟩
  outside : isInternal (spelled api name tail) = false
  inside : isInternal (internalPrefix ++ spelled api name tail) = true
  /-- Both lead to the service that was installed last under the two names, each compared by itself. -/
  service : ∀ application version assembly changes,
    let site := (Site.fresh application version assembly).after changes
    let last := latest (fun service =>
      Text.lower service.api = Text.lower api.text ∧
        Text.lower service.name = Text.lower name.text) site.installed
    site.hub.serviceAt (spelled api name tail) = last ∧
      site.hub.serviceAt (internalPrefix ++ spelled api name tail) = last

/--
The prefix of internal calls does not count for the place to which a path leads, and it is the only
difference between a path and that of its route.  Short paths lead nowhere in hubs that were only ever
configured.
-/
theorem Route.leads_alike :
    (∀ api name tail, isInternal (spelled api name tail) = false → Transparent api name tail) ∧
      (∀ path, isInternal path = true ↔ (ofPath path).path ≠ path) ∧
      ∀ application version assembly changes,
        (∀ change ∈ changes, Change.IsConfiguration change) →
        ∀ path, Short path →
          ((Site.fresh application version assembly).after changes).hub.serviceAt path = none := by
  refine ⟨?_, isInternal_iff, ?_⟩
  · intro api name tail outside
    have plain := ofPath_spelled api name tail outside
    have called := ofPath_called api name tail
    refine ⟨plain, called, outside, ?_, ?_⟩
    · exact Option.isSome_iff_exists.mpr ⟨_, dropInternal?_called api name tail⟩
    · intro application version assembly changes site last
      have viewed : site.Viewed := (Site.Viewed.fresh application version assembly).after changes
      have found : site.hub.resolve api.text name.text = last :=
        viewed.resolve_whole api.whole name.whole
      simp only [Hub.serviceAt, plain, called]
      exact ⟨found, found⟩
  · intro application version assembly changes configures path short
    have viewed := (Site.Viewed.fresh application version assembly).after changes
    apply viewed.resolve_short (Site.named_after ?_ configures) short
    intro service member
    exact absurd member List.not_mem_nil

namespace Route

/-- A segment in letters of both cases. -/
def shop : Segment := ⟨"Shop", by decide, by decide⟩

/-- A segment with a capital sigma at its end. -/
def cart : Segment := ⟨"CARTΣ", by decide, by decide⟩

/-- A tail with slashes to spare. -/
def items : Tail := ⟨"//items//", Or.inr ⟨_, rfl⟩⟩

/-- A home whose only document describes a service. -/
def corner : Home :=
  { (default : Home) with
    aggregates :=
      [("aggregates/cart.yaml",
        { (default : Definition.AggregateDocument) with
          spec := { (default : Definition.Aggregate) with api := "shop", name := "cartς" } })] }

theorem leads_alike_shop :
    (isInternal (spelled shop cart items) = false ∧ Transparent shop cart items) ∧
      Short "//Shop/" ∧
        ((Site.fresh "store" none .start).after
          [.configure default .empty corner]).hub.serviceAt "//Shop/" = none := by
  have outside : isInternal (spelled shop cart items) = false := by decide +kernel
  have short : Short "//Shop/" := by
    left
    right
    decide +kernel
  have configures : ∀ change ∈ [Change.configure default .empty corner],
      change.IsConfiguration := by
    rintro change member
    obtain rfl := List.mem_singleton.mp member
    trivial
  exact ⟨⟨outside, leads_alike.1 shop cart items outside⟩, short,
    leads_alike.2.2 "store" none .start _ configures "//Shop/" short⟩

example :
    (((Site.fresh "store" none .start).after
      [.configure default .empty corner]).hub.serviceAt
        (internalPrefix ++ spelled shop cart items)).isSome = true := by
  decide +kernel

end Route

end RequestHub
