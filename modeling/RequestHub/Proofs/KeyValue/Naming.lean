import RequestHub.Proofs.Json.Spelling
import RequestHub.Proofs.KeyValue.Sequence

/-!
# Documents bear their keys

A key comes to a store from the field of keys of an object, as a text or as the digits of a number, from an
identifier that is made for an object, or from the request that replaces an object.  Whichever way it comes,
the object that is stored under it bears it in its field of keys: a made identifier and the key of a
replacement are written into the object before it is stored.

`Named` says so of a store.  `Leaves` lists what a step can make of a store; all of it keeps the store
named, and so it is named behind every run.  A listing then shows no key twice.
-/

namespace RequestHub

theorem Uuid.text_ne_empty (id : Uuid) : id.text ≠ "" := by
  intro empty
  have digits := id.length_digits
  rw [← id.filter_text, empty] at digits
  cases digits

namespace KeyValue

variable {idField : String} {store : Store} {key : String} {members : Names Json}

/-- An object bears a key in its field of keys: as a text, or as a number that is written like the key. -/
inductive Bears (idField key : String) : Json → Prop where
  | text {members : Names Json}
      (held : members.find? idField = some (.string key)) :
      Bears idField key (.object members)
  | number {members : Names Json} {number : Json.Number}
      (held : members.find? idField = some (.number number))
      (written : number.render = key) :
      Bears idField key (.object members)

/-- Every document is stored under a key that is not empty and that it bears. -/
structure Store.Named (idField : String) (store : Store) : Prop where
  ordered : Names.Ordered store
  filled : ∀ {key document}, (key, document) ∈ store → key ≠ ""
  bears : ∀ {key document}, (key, document) ∈ store → Bears idField key (.object document.members)

/-! ## Keys that objects bear -/

theorem KeyOf.ne_empty
    {value : Json}
    (keyOf : KeyOf value key) :
    key ≠ "" := by
  cases keyOf with
  | text filled => exact filled
  | number number =>
      intro empty
      exact number.bare_render.1 (String.toList_eq_nil_iff.mpr empty)

theorem OwnKey.bears
    (own : OwnKey idField members key) :
    Bears idField key (.object members) := by
  obtain ⟨value, held, keyOf⟩ := own
  cases keyOf with
  | text => exact .text held
  | number => exact .number held rfl

/-- An object whose field of keys holds the text of a key has the key as its own. -/
theorem ownKey_insert
    (filled : key ≠ "")
    (members : Names Json) :
    OwnKey idField (Names.insert idField (.string key) members) key := by
  refine ⟨.string key, ?_, .text filled⟩
  rw [Names.find?_insert_self]

/-- An object is added under a key that it has as its own by then. -/
theorem Entry.ownKey
    {fresh : Uuid}
    {document : Names Json}
    (entry : Entry idField fresh members key document) :
    OwnKey idField document key := by
  rcases entry with ⟨own, rfl⟩ | ⟨-, rfl, rfl⟩
  · exact own
  · exact ownKey_insert fresh.text_ne_empty members

theorem RequestKey.ne_empty
    {request : Request}
    (named : RequestKey request key) :
    key ≠ "" := by
  cases named with
  | param _ filled => exact filled
  | segment _ _ filled => exact filled

theorem PlaceKey.ne_empty
    {request : Request}
    (place : PlaceKey idField request members key) :
    key ≠ "" := by
  rcases place with named | ⟨-, value, -, keyOf⟩
  · exact named.ne_empty
  · exact keyOf.ne_empty

theorem Bears.unique
    {left right : String}
    {value : Json}
    (first : Bears idField left value)
    (second : Bears idField right value) :
    left = right := by
  cases first with
  | text held =>
      cases second with
      | text held' => cases held.symm.trans held'; rfl
      | number held' => cases held.symm.trans held'
  | number held written =>
      cases second with
      | text held' => cases held.symm.trans held'
      | number held' written' =>
          cases held.symm.trans held'
          exact written.symm.trans written'

/-! ## What a step makes of a store -/

/-- The documents behind a step: as before, or with one added, replaced or removed. -/
inductive Leaves (idField : String) (fresh : Uuid) (now : Nat) (store : Store) (request : Request) :
    Store → Prop where
  | same : Leaves idField fresh now store request store
  | added {members document : Names Json} {key : String}
      (object : HasObject request members)
      (entry : Entry idField fresh members key document) :
      Leaves idField fresh now store request (Names.insert key ⟨document, now, now⟩ store)
  | replaced {members : Names Json} {key : String} {old : Document}
      (object : HasObject request members)
      (place : PlaceKey idField request members key) :
      Leaves idField fresh now store request
        (Names.insert key ⟨Names.insert idField (.string key) members, old.created, now⟩ store)
  | removed (key : String) : Leaves idField fresh now store request (Names.erase key store)

section

variable (idField : String) (fresh : Uuid) (now : Nat) (store : Store) (request : Request)

theorem create_leaves :
    Leaves idField fresh now store request (create idField fresh now store request).2 := by
  by_cases spelled : ∃ members, HasObject request members
  · obtain ⟨members, object⟩ := spelled
    obtain ⟨key, document, entry, created⟩ := create_of_object idField fresh now store object
    rw [created, addAt]
    split
    · exact .same
    · exact .added object entry
  · rw [not_exists] at spelled
    obtain ⟨message, unread⟩ := readDocument_of_other spelled
    rw [create, unread]
    exact .same

theorem replace_leaves :
    Leaves idField fresh now store request (replace idField now store request).2 := by
  by_cases spelled : ∃ members, HasObject request members
  · obtain ⟨members, object⟩ := spelled
    rw [replace, readDocument_of_object object]
    cases place : (requestKey? request).orElse fun _ => documentKey? idField members with
    | none =>
        simp only [place]
        exact .same
    | some key =>
        cases found : Names.find? key store with
        | none =>
            simp only [place, found]
            exact .same
        | some old =>
            simp only [place, found]
            exact .replaced object ((placeKey_iff ..).mp place)
  · rw [not_exists] at spelled
    obtain ⟨message, unread⟩ := readDocument_of_other spelled
    rw [replace, unread]
    exact .same

theorem delete_leaves : Leaves idField fresh now store request (delete store request).2 := by
  rw [delete]
  split
  · exact .same
  · split
    · exact .removed _
    · exact .same

/-- Whatever a step does to the documents is one of these. -/
theorem serve_leaves :
    Leaves idField fresh now store request (serve idField fresh now store request).2 := by
  rw [serve]
  cases request.method with
  | post => exact create_leaves idField fresh now store request
  | put => exact replace_leaves idField fresh now store request
  | delete => exact delete_leaves idField fresh now store request
  | get | head | options | patch | trace | connect => exact .same

end

/-! ## Named stores -/

namespace Store.Named

theorem empty (idField : String) : Store.Named idField [] where
  ordered := List.Pairwise.nil
  filled member := nomatch member
  bears member := nomatch member

theorem insert
    {document : Document}
    (named : store.Named idField)
    (own : OwnKey idField document.members key) :
    Store.Named idField (Names.insert key document store) where
  ordered := Names.ordered_insert named.ordered
  filled member := by
    rcases Names.mem_insert member with same | held
    · cases same
      obtain ⟨value, -, keyOf⟩ := own
      exact keyOf.ne_empty
    · exact named.filled held
  bears member := by
    rcases Names.mem_insert member with same | held
    · cases same
      exact own.bears
    · exact named.bears held

theorem erase
    (named : store.Named idField)
    (key : String) :
    Store.Named idField (Names.erase key store) where
  ordered := Names.ordered_erase named.ordered
  filled member := named.filled (List.mem_filter.mp member).1
  bears member := named.bears (List.mem_filter.mp member).1

end Store.Named

/-- Every step keeps the documents named. -/
theorem Leaves.named
    {fresh : Uuid}
    {now : Nat}
    {request : Request}
    {next : Store}
    (leaves : Leaves idField fresh now store request next)
    (named : store.Named idField) :
    next.Named idField := by
  cases leaves with
  | same => exact named
  | added _ entry => exact named.insert entry.ownKey
  | replaced _ place => exact named.insert (ownKey_insert place.ne_empty _)
  | removed key => exact named.erase key

/-! ## Runs -/

/-- The session behind requests to a target, one after another. -/
def reached (idField : String) {serial : Nat} (session : Session) (visits : List (Visit serial)) :
    Session :=
  visits.foldl (fun session visit => (exchange idField session visit).after) session

/-- What every step keeps of a store is kept behind a run. -/
theorem store_reached
    {serial : Nat}
    {session : Session}
    {kept : Store → Prop}
    (step : ∀ {fresh now before request next},
      Leaves idField fresh now before request next → kept before → kept next)
    (started : kept (session.store serial))
    (visits : List (Visit serial)) :
    kept ((reached idField session visits).store serial) := by
  induction visits generalizing session with
  | nil => exact started
  | cons visit visits ih =>
      refine ih ?_
      simp only [exchange, target_run, store_withStore]
      refine step (serve_leaves ..) ?_
      rw [visit.interlude.store_eq]
      exact started

theorem Store.Named.reached
    {serial : Nat}
    {session : Session}
    (named : (session.store serial).Named idField)
    (visits : List (Visit serial)) :
    ((reached idField session visits).store serial).Named idField :=
  store_reached Leaves.named named visits

/-- A request that names no key is answered with all documents. -/
theorem lists_all
    {serial : Nat}
    {request : Request}
    (method : request.method = .get)
    (unnamed : ∀ key, ¬ RequestKey request key)
    (context : Context)
    (scope : Scope)
    (session : Session) :
    Shows ((target idField serial).run context scope request session).1 .ok
      (.array ((session.store serial).values.map fun document => .object document.members)) := by
  have keyless := (requestKey?_eq_none_iff request).mpr unnamed
  rw [target_run, stepOf, serve, method, readAt, keyless]
  exact ⟨_, rfl, rfl, rfl⟩

/-- No two documents that are listed bear the same key. -/
theorem Store.Named.pairwise_values
    (named : store.Named idField) :
    (store.values.map fun document => Json.object document.members).Pairwise fun left right =>
      ∀ key, Bears idField key left → ¬ Bears idField key right := by
  rw [Names.values, List.map_map, List.pairwise_map]
  refine List.Pairwise.imp_of_mem ?_ named.ordered
  intro left right first second behind key bears again
  -- Each of the two bears the key under which it is stored, and only that one.
  obtain rfl := (named.bears first).unique bears
  rw [(named.bears second).unique again] at behind
  exact String.lt_irrefl _ behind

/-- What is true of the documents of a target behind any run. -/
structure SelfNamed (idField : String) (serial : Nat) (session : Session) : Prop where
  /-- Every document is stored under a key that is not empty and that it bears. -/
  named : (session.store serial).Named idField
  /-- A listing shows every document, and no key twice. -/
  listing : ∀ context scope request, request.method = .get → (∀ key, ¬ RequestKey request key) →
    ∃ listed : List Json,
      listed = ((session.store serial).values.map fun document => .object document.members) ∧
        Shows ((target idField serial).run context scope request session).1 .ok (.array listed) ∧
        listed.Pairwise fun left right => ∀ key, Bears idField key left → ¬ Bears idField key right

/-- Whatever comes to a target, its documents bear the keys under which they are stored. -/
theorem documents_bear_keys
    (idField : String)
    (serial : Nat)
    (session : Session)
    (visits : List (Visit serial)) :
    SelfNamed idField serial (reached idField (session.withStore serial []) visits) := by
  have started : ((session.withStore serial []).store serial).Named idField := by
    rw [store_withStore]
    exact .empty idField
  have named := started.reached visits
  exact {
    named
    listing := fun context scope request method unnamed =>
      ⟨_, rfl, lists_all method unnamed context scope _, named.pairwise_values⟩ }

end KeyValue

end RequestHub
