import Mathlib.Data.Finmap
import RequestHub.KeyValue.Target

/-!
# What a key-value target serves

A target that keeps JSON objects by their keys serves as a finite map from keys to objects.  `Served`
says of each kind of request what the map answers, and which objects it has afterwards, without any
mention of how the objects are kept.  It leaves no choice: the status of the answer and the next map
follow from the request and the map.

A `Store` holds a map if it lists the objects of the map in the order of their keys.  One step of a
target, from a store that holds a map, serves as the map, and leaves a store that holds the map
afterwards.
-/

namespace RequestHub.KeyValue

/-- The objects under their keys. -/
abbrev Contents := Finmap fun _ : String => Names Json

/-! ## Keys -/

/-- A value that a key can be taken from, with the key. -/
inductive KeyOf : Json → String → Prop where
  | text {key : String} (filled : key ≠ "") : KeyOf (.string key) key
  | number (number : Json.Number) : KeyOf (.number number) number.render

@[simp]
theorem keyOf?_eq_some_iff
    (value : Json)
    (key : String) :
    keyOf? value = some key ↔ KeyOf value key := by
  constructor
  · intro found
    cases value with
    | string text =>
        rw [keyOf?] at found
        split at found
        · cases found
        · rename_i filled
          obtain rfl := Option.some.inj found
          exact .text fun empty => filled (by rw [empty]; rfl)
    | number number =>
        obtain rfl := Option.some.inj found
        exact .number number
    | null | bool | array | object => cases found
  · rintro (⟨filled⟩ | number)
    · rw [keyOf?, if_neg]
      rwa [String.isEmpty_iff]
    · rfl

/-- The key that an object has by the field of keys. -/
def OwnKey (idField : String) (members : Names Json) (key : String) : Prop :=
  ∃ value, members.find? idField = some value ∧ KeyOf value key

@[simp]
theorem documentKey?_eq_some_iff
    (idField : String)
    (members : Names Json)
    (key : String) :
    documentKey? idField members = some key ↔ OwnKey idField members key := by
  rw [documentKey?, Option.bind_eq_some_iff]
  simp only [keyOf?_eq_some_iff, OwnKey]

/-- The key under which an object is added, and the object: with its own key, or else with a new one. -/
def Entry (idField : String) (fresh : Uuid) (members : Names Json) (key : String)
    (document : Names Json) : Prop :=
  (OwnKey idField members key ∧ document = members) ∨
    ((∀ own, ¬ OwnKey idField members own) ∧ key = fresh.text ∧
      document = Names.insert idField (.string fresh.text) members)

/-- The key that a request names: by its parameter or, if that is missing or empty, by its path. -/
inductive RequestKey (request : Request) : String → Prop where
  | param {key : String}
      (given : request.param? "id" = some key)
      (filled : key ≠ "") :
      RequestKey request key
  | segment {key : String}
      (not_given : ∀ id, request.param? "id" = some id → id = "")
      (third : (Route.segments request.route.path.toList)[2]? = some key.toList)
      (filled : key ≠ "") :
      RequestKey request key

@[simp]
theorem requestKey?_eq_some_iff
    (request : Request)
    (key : String) :
    requestKey? request = some key ↔ RequestKey request key := by
  have filled_iff (id : String) : (!id.isEmpty) = true ↔ id ≠ "" := by
    rw [Bool.not_eq_true', ← Bool.not_eq_true, String.isEmpty_iff]
  constructor
  · intro named
    rw [requestKey?] at named
    split at named
    · rename_i id given
      obtain rfl := Option.some.inj named
      obtain ⟨given, filled⟩ := Option.filter_eq_some_iff.mp given
      exact .param given ((filled_iff id).mp filled)
    · rename_i missing
      have not_given : ∀ id, request.param? "id" = some id → id = "" := by
        intro id given
        by_contra filled
        rw [given, Option.filter_some, if_pos ((filled_iff id).mpr filled)] at missing
        cases missing
      split at named
      · rename_i char chars third
        obtain rfl := Option.some.inj named
        refine .segment not_given ?_ ?_
        · rw [third, String.toList_ofList]
        · intro empty
          cases String.ofList_eq_empty_iff.mp empty
      · cases named
  · rintro (⟨given, filled⟩ | ⟨not_given, third, filled⟩)
    · rw [requestKey?, given, Option.filter_some, if_pos ((filled_iff key).mpr filled)]
    · have missing : (request.param? "id").filter (!·.isEmpty) = none := by
        cases given : request.param? "id" with
        | none => rfl
        | some id =>
            rw [not_given id given]
            rfl
      rw [requestKey?, missing, third]
      cases spelled : key.toList with
      | nil => exact absurd (String.toList_eq_nil_iff.mp spelled) filled
      | cons char chars =>
          change some (String.ofList (char :: chars)) = some key
          rw [← spelled, String.ofList_toList]

theorem requestKey?_eq_none_iff
    (request : Request) :
    requestKey? request = none ↔ ∀ key, ¬ RequestKey request key := by
  simp only [← requestKey?_eq_some_iff, Option.eq_none_iff_forall_ne_some, ne_eq]

/-- The key of the object that is replaced: the key in the request, or else the object's own. -/
def PlaceKey (idField : String) (request : Request) (members : Names Json) (key : String) : Prop :=
  RequestKey request key ∨ ((∀ named, ¬ RequestKey request named) ∧ OwnKey idField members key)

theorem placeKey_iff
    (idField : String)
    (request : Request)
    (members : Names Json)
    (key : String) :
    ((requestKey? request).orElse fun _ => documentKey? idField members) = some key ↔
      PlaceKey idField request members key := by
  rw [PlaceKey, ← documentKey?_eq_some_iff, ← requestKey?_eq_some_iff, ← requestKey?_eq_none_iff]
  cases requestKey? request with
  | none => simp
  | some named => simp

/-- The body of a request is the text of an object. -/
def HasObject (request : Request) (members : Names Json) : Prop :=
  request.json = .ok (.object members)

/-! ## Answers -/

/-- An answer with a status and the text of a value. -/
def Shows (answer : Outcome (Option Response)) (status : Status) (value : Json) : Prop :=
  ∃ response, answer = .done (some response) ∧ response.status = status ∧
    response.body = Bytes.ofString value.render

/-- An answer with a status and an object that says what is wrong. -/
def Refuses (answer : Outcome (Option Response)) (status : Status) : Prop :=
  ∃ message, Shows answer status (Json.ofMembers [("error", .string message)])

/-- The status of an answer, if it is a response. -/
def status? : Outcome (Option Response) → Option Status
  | .done (some response) => some response.status
  | _ => none

theorem Shows.status?_eq
    {answer : Outcome (Option Response)}
    {status : Status}
    {value : Json}
    (shows : Shows answer status value) :
    status? answer = some status := by
  obtain ⟨response, rfl, rfl, -⟩ := shows
  rfl

theorem Refuses.status?_eq
    {answer : Outcome (Option Response)}
    {status : Status}
    (refuses : Refuses answer status) :
    status? answer = some status := by
  obtain ⟨message, shows⟩ := refuses
  exact shows.status?_eq

theorem Shows.agree
    {left right : Outcome (Option Response)}
    {status : Status}
    {first second : Json}
    (shows : Shows left status first)
    (again : Shows right status second) :
    status? left = status? right :=
  shows.status?_eq.trans again.status?_eq.symm

theorem Refuses.agree
    {left right : Outcome (Option Response)}
    {status : Status}
    (refuses : Refuses left status)
    (again : Refuses right status) :
    status? left = status? right :=
  refuses.status?_eq.trans again.status?_eq.symm

/-! ## What a map serves -/

section

variable (idField : String) (fresh : Uuid) (contents : Contents) (request : Request)

/-- An object is added under its key if there is none under the key. -/
inductive Creation : Outcome (Option Response) → Contents → Prop where
  | created {members document : Names Json} {key : String} {answer : Outcome (Option Response)}
      (object : HasObject request members)
      (entry : Entry idField fresh members key document)
      (absent : key ∉ contents)
      (shows : Shows answer .created (.object document)) :
      Creation answer (contents.insert key document)
  | conflict {members document : Names Json} {key : String} {answer : Outcome (Option Response)}
      (object : HasObject request members)
      (entry : Entry idField fresh members key document)
      (present : key ∈ contents)
      (refuses : Refuses answer .conflict) :
      Creation answer contents
  | malformed {answer : Outcome (Option Response)}
      (other : ∀ members, ¬ HasObject request members)
      (refuses : Refuses answer .badRequest) :
      Creation answer contents

/-- The object under the key that a request names is shown, or else all objects, each of them once. -/
inductive Reading : Outcome (Option Response) → Contents → Prop where
  | shown {key : String} {document : Names Json} {answer : Outcome (Option Response)}
      (named : RequestKey request key)
      (found : contents.lookup key = some document)
      (shows : Shows answer .ok (.object document)) :
      Reading answer contents
  | missing {key : String} {answer : Outcome (Option Response)}
      (named : RequestKey request key)
      (absent : key ∉ contents)
      (refuses : Refuses answer .notFound) :
      Reading answer contents
  | listed {keys : List String} {answer : Outcome (Option Response)}
      (unnamed : ∀ key, ¬ RequestKey request key)
      (increasing : keys.Pairwise (· < ·))
      (complete : ∀ key, key ∈ keys ↔ key ∈ contents)
      (shows : Shows answer .ok (.array ((keys.filterMap contents.lookup).map .object))) :
      Reading answer contents

/-- An object takes the place of one that is there, and its field of keys says its key. -/
inductive Replacement : Outcome (Option Response) → Contents → Prop where
  | replaced {members : Names Json} {key : String} {answer : Outcome (Option Response)}
      (object : HasObject request members)
      (place : PlaceKey idField request members key)
      (present : key ∈ contents)
      (shows : Shows answer .ok (.object (Names.insert idField (.string key) members))) :
      Replacement answer (contents.insert key (Names.insert idField (.string key) members))
  | missing {members : Names Json} {key : String} {answer : Outcome (Option Response)}
      (object : HasObject request members)
      (place : PlaceKey idField request members key)
      (absent : key ∉ contents)
      (refuses : Refuses answer .notFound) :
      Replacement answer contents
  | keyless {members : Names Json} {answer : Outcome (Option Response)}
      (object : HasObject request members)
      (nowhere : ∀ key, ¬ PlaceKey idField request members key)
      (refuses : Refuses answer .badRequest) :
      Replacement answer contents
  | malformed {answer : Outcome (Option Response)}
      (other : ∀ members, ¬ HasObject request members)
      (refuses : Refuses answer .badRequest) :
      Replacement answer contents

/-- The object under the key that a request names is removed. -/
inductive Removal : Outcome (Option Response) → Contents → Prop where
  | removed {key : String}
      (named : RequestKey request key)
      (present : key ∈ contents) :
      Removal (.done (some (.ofStatus .noContent))) (contents.erase key)
  | missing {key : String} {answer : Outcome (Option Response)}
      (named : RequestKey request key)
      (absent : key ∉ contents)
      (refuses : Refuses answer .notFound) :
      Removal answer contents
  | keyless {answer : Outcome (Option Response)}
      (unnamed : ∀ key, ¬ RequestKey request key)
      (refuses : Refuses answer .badRequest) :
      Removal answer contents

/-- What a map answers a request with, and what it has next. -/
inductive Served : Outcome (Option Response) → Contents → Prop where
  | post {answer : Outcome (Option Response)} {next : Contents}
      (method : request.method = .post)
      (creation : Creation idField fresh contents request answer next) :
      Served answer next
  | get {answer : Outcome (Option Response)} {next : Contents}
      (method : request.method = .get)
      (reading : Reading contents request answer next) :
      Served answer next
  | put {answer : Outcome (Option Response)} {next : Contents}
      (method : request.method = .put)
      (replacement : Replacement idField contents request answer next) :
      Served answer next
  | delete {answer : Outcome (Option Response)} {next : Contents}
      (method : request.method = .delete)
      (removal : Removal contents request answer next) :
      Served answer next
  | unsupported
      (other : request.method ∉ [Method.post, .get, .put, .delete]) :
      Served (.failed (.unsupportedMethod request.method.name)) contents

end

/-! ## Only one way to serve a request -/

theorem KeyOf.unique
    {value : Json}
    {left right : String}
    (first : KeyOf value left)
    (second : KeyOf value right) :
    left = right := by
  cases first with
  | text => cases second; rfl
  | number => cases second; rfl

theorem OwnKey.unique
    {idField : String}
    {members : Names Json}
    {left right : String}
    (first : OwnKey idField members left)
    (second : OwnKey idField members right) :
    left = right := by
  rw [← documentKey?_eq_some_iff] at first second
  exact Option.some.inj (first.symm.trans second)

theorem RequestKey.unique
    {request : Request}
    {left right : String}
    (first : RequestKey request left)
    (second : RequestKey request right) :
    left = right := by
  rw [← requestKey?_eq_some_iff] at first second
  exact Option.some.inj (first.symm.trans second)

theorem PlaceKey.unique
    {idField : String}
    {request : Request}
    {members : Names Json}
    {left right : String}
    (first : PlaceKey idField request members left)
    (second : PlaceKey idField request members right) :
    left = right := by
  rw [← placeKey_iff] at first second
  exact Option.some.inj (first.symm.trans second)

theorem HasObject.unique
    {request : Request}
    {left right : Names Json}
    (first : HasObject request left)
    (second : HasObject request right) :
    left = right := by
  cases Except.ok.inj (Eq.trans (Eq.symm first) second)
  rfl

theorem Entry.unique
    {idField : String}
    {fresh : Uuid}
    {members leftDocument rightDocument : Names Json}
    {left right : String}
    (first : Entry idField fresh members left leftDocument)
    (second : Entry idField fresh members right rightDocument) :
    left = right ∧ leftDocument = rightDocument := by
  rcases first with ⟨owned, rfl⟩ | ⟨keyless, rfl, rfl⟩
  · rcases second with ⟨again, rfl⟩ | ⟨keyless, -, -⟩
    · exact ⟨owned.unique again, rfl⟩
    · exact absurd owned (keyless left)
  · rcases second with ⟨owned, -⟩ | ⟨-, rfl, rfl⟩
    · exact absurd owned (keyless right)
    · exact ⟨rfl, rfl⟩

section

variable {idField : String} {fresh : Uuid} {contents next later : Contents} {request : Request}
  {answer other : Outcome (Option Response)}

theorem Creation.unique
    (first : Creation idField fresh contents request answer next)
    (second : Creation idField fresh contents request other later) :
    status? answer = status? other ∧ next = later := by
  cases first with
  | created object entry absent shows =>
      cases second with
      | created object' entry' absent' shows' =>
          cases object.unique object'
          obtain ⟨rfl, rfl⟩ := entry.unique entry'
          exact ⟨shows.agree shows', rfl⟩
      | conflict object' entry' present =>
          cases object.unique object'
          obtain ⟨rfl, -⟩ := entry.unique entry'
          exact absurd present absent
      | malformed none => exact absurd object (none _)
  | conflict object entry present refuses =>
      cases second with
      | created object' entry' absent =>
          cases object.unique object'
          obtain ⟨rfl, -⟩ := entry.unique entry'
          exact absurd present absent
      | conflict _ _ _ refuses' => exact ⟨refuses.agree refuses', rfl⟩
      | malformed none => exact absurd object (none _)
  | malformed none refuses =>
      cases second with
      | created object => exact absurd object (none _)
      | conflict object => exact absurd object (none _)
      | malformed _ refuses' => exact ⟨refuses.agree refuses', rfl⟩

theorem Reading.unique
    (first : Reading contents request answer next)
    (second : Reading contents request other later) :
    status? answer = status? other ∧ next = later := by
  cases first with
  | shown named found shows =>
      cases second with
      | shown _ _ shows' => exact ⟨shows.agree shows', rfl⟩
      | missing named' absent =>
          cases named.unique named'
          exact absurd (Finmap.mem_of_lookup_eq_some found) absent
      | listed unnamed => exact absurd named (unnamed _)
  | missing named absent refuses =>
      cases second with
      | shown named' found =>
          cases named.unique named'
          exact absurd (Finmap.mem_of_lookup_eq_some found) absent
      | missing _ _ refuses' => exact ⟨refuses.agree refuses', rfl⟩
      | listed unnamed => exact absurd named (unnamed _)
  | listed unnamed _ _ shows =>
      cases second with
      | shown named => exact absurd named (unnamed _)
      | missing named => exact absurd named (unnamed _)
      | listed _ _ _ shows' => exact ⟨shows.agree shows', rfl⟩

theorem Replacement.unique
    (first : Replacement idField contents request answer next)
    (second : Replacement idField contents request other later) :
    status? answer = status? other ∧ next = later := by
  cases first with
  | replaced object place present shows =>
      cases second with
      | replaced object' place' _ shows' =>
          cases object.unique object'
          cases place.unique place'
          exact ⟨shows.agree shows', rfl⟩
      | missing object' place' absent =>
          cases object.unique object'
          cases place.unique place'
          exact absurd present absent
      | keyless object' nowhere =>
          cases object.unique object'
          exact absurd place (nowhere _)
      | malformed none => exact absurd object (none _)
  | missing object place absent refuses =>
      cases second with
      | replaced object' place' present =>
          cases object.unique object'
          cases place.unique place'
          exact absurd present absent
      | missing _ _ _ refuses' => exact ⟨refuses.agree refuses', rfl⟩
      | keyless object' nowhere =>
          cases object.unique object'
          exact absurd place (nowhere _)
      | malformed none => exact absurd object (none _)
  | keyless object nowhere refuses =>
      cases second with
      | replaced object' place | missing object' place =>
          cases object.unique object'
          exact absurd place (nowhere _)
      | keyless _ _ refuses' | malformed _ refuses' =>
          exact ⟨refuses.agree refuses', rfl⟩
  | malformed none refuses =>
      cases second with
      | replaced object | missing object => exact absurd object (none _)
      | keyless _ _ refuses' | malformed _ refuses' =>
          exact ⟨refuses.agree refuses', rfl⟩

theorem Removal.unique
    (first : Removal contents request answer next)
    (second : Removal contents request other later) :
    status? answer = status? other ∧ next = later := by
  cases first with
  | removed named present =>
      cases second with
      | removed named' =>
          cases named.unique named'
          exact ⟨rfl, rfl⟩
      | missing named' absent =>
          cases named.unique named'
          exact absurd present absent
      | keyless unnamed => exact absurd named (unnamed _)
  | missing named absent refuses =>
      cases second with
      | removed named' present =>
          cases named.unique named'
          exact absurd present absent
      | missing _ _ refuses' => exact ⟨refuses.agree refuses', rfl⟩
      | keyless unnamed => exact absurd named (unnamed _)
  | keyless unnamed refuses =>
      cases second with
      | removed named | missing named => exact absurd named (unnamed _)
      | keyless _ refuses' => exact ⟨refuses.agree refuses', rfl⟩

/-- The status and the next map follow from the request and the map. -/
theorem Served.unique
    (first : Served idField fresh contents request answer next)
    (second : Served idField fresh contents request other later) :
    status? answer = status? other ∧ next = later := by
  cases first with
  | post method creation =>
      cases second with
      | post _ creation' => exact creation.unique creation'
      | get method' | put method' | delete method' => cases method.symm.trans method'
      | unsupported foreign => exact absurd (by simp [method]) foreign
  | get method reading =>
      cases second with
      | get _ reading' => exact reading.unique reading'
      | post method' | put method' | delete method' => cases method.symm.trans method'
      | unsupported foreign => exact absurd (by simp [method]) foreign
  | put method replacement =>
      cases second with
      | put _ replacement' => exact replacement.unique replacement'
      | post method' | get method' | delete method' => cases method.symm.trans method'
      | unsupported foreign => exact absurd (by simp [method]) foreign
  | delete method removal =>
      cases second with
      | delete _ removal' => exact removal.unique removal'
      | post method' | get method' | put method' => cases method.symm.trans method'
      | unsupported foreign => exact absurd (by simp [method]) foreign
  | unsupported foreign =>
      cases second with
      | post method | get method | put method | delete method =>
          exact absurd (by simp [method]) foreign
      | unsupported => exact ⟨rfl, rfl⟩

end

/-! ## Stores that hold a map -/

/-- A store lists the objects of a map in the order of their keys. -/
structure Store.Holds (store : Store) (contents : Contents) : Prop where
  ordered : Names.Ordered store
  lookup_eq : ∀ key, contents.lookup key = (Names.find? key store).map Document.members

namespace Store.Holds

variable {store : Store} {contents : Contents} {key : String}

theorem empty : Store.Holds [] ∅ where
  ordered := List.Pairwise.nil
  lookup_eq _ := Finmap.lookup_empty _

theorem lookup_of_find?
    (holds : store.Holds contents)
    {document : Document}
    (found : Names.find? key store = some document) :
    contents.lookup key = some document.members := by
  rw [holds.lookup_eq, found]
  rfl

theorem mem_of_find?
    (holds : store.Holds contents)
    {document : Document}
    (found : Names.find? key store = some document) :
    key ∈ contents :=
  Finmap.mem_of_lookup_eq_some (holds.lookup_of_find? found)

theorem not_mem_of_find?
    (holds : store.Holds contents)
    (missing : Names.find? key store = none) :
    key ∉ contents := by
  rw [← Finmap.lookup_eq_none, holds.lookup_eq, missing]
  rfl

theorem insert
    (holds : store.Holds contents)
    (key : String)
    (document : Document) :
    Store.Holds (Names.insert key document store) (contents.insert key document.members) where
  ordered := Names.ordered_insert holds.ordered
  lookup_eq wanted := by
    rw [Names.find?_insert]
    by_cases same : wanted = key
    · subst same
      rw [if_pos rfl, Finmap.lookup_insert]
      rfl
    · rw [if_neg same, Finmap.lookup_insert_of_ne _ same, holds.lookup_eq]

theorem erase
    (holds : store.Holds contents)
    (key : String) :
    Store.Holds (Names.erase key store) (contents.erase key) where
  ordered := Names.ordered_erase holds.ordered
  lookup_eq wanted := by
    rw [Names.find?_erase]
    by_cases same : wanted = key
    · subst same
      rw [if_pos rfl, Finmap.lookup_erase]
      rfl
    · rw [if_neg same, Finmap.lookup_erase_ne same, holds.lookup_eq]

theorem mem_keys_iff
    (holds : store.Holds contents)
    (key : String) :
    key ∈ Names.keys store ↔ key ∈ contents := by
  rw [Names.mem_keys_iff, Names.contains, ← Finmap.lookup_isSome, holds.lookup_eq,
    Option.isSome_map]

theorem pairwise_keys
    (holds : store.Holds contents) :
    (Names.keys store).Pairwise (· < ·) :=
  List.pairwise_map.mpr holds.ordered

theorem values_eq
    (holds : store.Holds contents) :
    (Names.values store).map Document.members =
      (Names.keys store).filterMap contents.lookup := by
  have found : ∀ pair ∈ store, contents.lookup pair.1 = some pair.2.members := by
    intro pair member
    exact holds.lookup_of_find? ((Names.find?_eq_some_iff holds.ordered _ _).mpr member)
  rw [Names.values, Names.keys, List.map_map, List.filterMap_map]
  clear holds
  induction store with
  | nil => rfl
  | cons pair store ih =>
      obtain ⟨first, others⟩ := List.forall_mem_cons.mp found
      rw [List.map_cons, List.filterMap_cons, Function.comp_apply, Function.comp_apply, first,
        ih others]

end Store.Holds

end RequestHub.KeyValue
