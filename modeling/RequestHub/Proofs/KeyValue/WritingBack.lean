import RequestHub.Proofs.Json.Bounds
import RequestHub.Proofs.KeyValue.Addressing

/-!
# Writing back what was read

A document is read with its key in the query, and what is shown is put back under the same key.  The text
that is shown is read as the document, except for real numbers, each of which is read as its own text is.
Then the key is written into the document as a text.

So nothing changes exactly if the document held its key as a text and each real number in it is read back.
A document that came with a number for its key holds a text afterwards.
-/

namespace RequestHub.KeyValue

open Json (Fits ReadsBack Within greatestDepth rereadMembers?)
open Route (Segment)

variable {idField : String} {store : Store} {request : Request} {fresh : Uuid} {now : Nat}
  {members others : Names Json} {key : String} {document : Document}

/-! ## Documents that a text spells -/

/-- Every document of a store is such as a text can spell. -/
def Store.Fitting (store : Store) : Prop :=
  ∀ pair ∈ store, Fits greatestDepth (.object pair.2.members)

theorem fits_of_hasObject (object : HasObject request members) :
    Fits greatestDepth (.object members) :=
  Json.fits_of_ofBytes object

theorem fits_insert
    (fits : Fits greatestDepth (.object members))
    (name text : String) :
    Fits greatestDepth (.object (Names.insert name (.string text) members)) := by
  refine ⟨fits.1, Names.ordered_insert fits.2.1, fun member listed => ?_⟩
  rcases Names.mem_insert listed with rfl | held
  · trivial
  · exact fits.2.2 member held

theorem Store.Fitting.insert
    (fitting : store.Fitting)
    (fits : Fits greatestDepth (.object document.members)) :
    Store.Fitting (Names.insert key document store) := by
  intro pair member
  rcases Names.mem_insert member with rfl | held
  · exact fits
  · exact fitting pair held

/-- Every step keeps the documents such as a text can spell. -/
theorem Leaves.fitting
    {next : Store}
    (leaves : Leaves idField fresh now store request next)
    (fitting : store.Fitting) :
    next.Fitting := by
  cases leaves with
  | same => exact fitting
  | added object entry =>
      have fits := fits_of_hasObject object
      rcases entry with ⟨-, rfl⟩ | ⟨-, -, rfl⟩
      · exact fitting.insert fits
      · exact fitting.insert (fits_insert fits _ _)
  | replaced object _ => exact fitting.insert (fits_insert (fits_of_hasObject object) _ _)
  | removed key => exact fun pair member => fitting pair (List.mem_filter.mp member).1

theorem fitting_reached
    (idField : String)
    {serial : Nat}
    (session : Session)
    (visits : List (Visit serial)) :
    ((reached idField (session.withStore serial []) visits).store serial).Fitting := by
  refine store_reached Leaves.fitting ?_ visits
  rw [store_withStore]
  exact fun pair member => nomatch member

/-! ## Putting the text of a document -/

/-- The request that puts the text of a document under a key. -/
def writingBack (api name : Segment) (key : String) (members : Names Json) (message : Message) :
    Request :=
  byQuery .put api name key { message with body := Bytes.ofString (Json.object members).render }

theorem json_writingBack
    (api name : Segment)
    (key : String)
    (fits : Fits greatestDepth (.object members))
    (message : Message) :
    (writingBack api name key members message).json.toOption =
      (rereadMembers? members).map .object := by
  rw [writingBack, json_byQuery, Json.ofString_render, Json.toOption_ofBytes_bytes fits,
    Json.reread?]

/-- What is put is the object that the text is read as. -/
theorem hasObject_writingBack_iff
    {api name : Segment}
    (fits : Fits greatestDepth (.object members))
    {message : Message} :
    HasObject (writingBack api name key members message) others ↔
      rereadMembers? members = some others := by
  rw [HasObject, ← Json.toOption_eq_some_iff, json_writingBack api name key fits, Option.map_eq_some_iff]
  simp

/-- The document that takes the place of one that is there. -/
def replacement (idField key : String) (now : Nat) (old : Document) (members : Names Json) : Document :=
  ⟨Names.insert idField (.string key) members, old.created, now⟩

section

variable {serial : Nat} {session : Session} {api name : Segment} {message : Message} {old : Document}

/-- A text that is not read is refused. -/
theorem stepOf_of_unread
    (fits : Fits greatestDepth (.object members))
    (unread : rereadMembers? members = none) :
    ∃ text, stepOf idField serial session (writingBack api name key members message) =
      (.ok (complaint .badRequest text), session.store serial) := by
  have other : ∀ others, ¬ HasObject (writingBack api name key members message) others := by
    intro others object
    rw [hasObject_writingBack_iff fits, unread] at object
    cases object
  obtain ⟨text, refused⟩ := readDocument_of_other other
  refine ⟨text, ?_⟩
  rw [stepOf, serve_of_put rfl, replace, refused]

/-- What the text is read as takes the place of what is there, with its key as a text. -/
theorem stepOf_of_reread
    (filled : key ≠ "")
    (found : Names.find? key (session.store serial) = some old)
    (fits : Fits greatestDepth (.object members))
    (read : rereadMembers? members = some others) :
    stepOf idField serial session (writingBack api name key members message) =
      (.ok (dated (replacement idField key (session.millis / 1000) old others)),
        Names.insert key (replacement idField key (session.millis / 1000) old others)
          (session.store serial)) := by
  have object : HasObject (writingBack api name key members message) others :=
    (hasObject_writingBack_iff fits).mpr read
  have named : RequestKey (writingBack api name key members message) key :=
    requestKey_byQuery .put api name filled _
  rw [stepOf, serve_of_put rfl, replace_of_requestKey object named, found]
  rfl

end

/-! ## What comes of it -/

/-- Each real number in an object is read back. -/
def ReadsBackAll (members : Names Json) : Prop :=
  ∀ real, Within (.real real) (.object members) → ReadsBack (.real real)

theorem rereadMembers?_self_iff_readsBackAll
    (fits : Fits greatestDepth (.object members)) :
    rereadMembers? members = some members ↔ ReadsBackAll members := by
  rw [ReadsBackAll, ← Json.reread?_self_iff fits, Json.reread?]
  simp

/-- If an object with its key as a text is the object that was written, it was read as it was. -/
theorem reread_of_insert_eq
    (ordered : Names.Ordered members)
    (read : rereadMembers? members = some others)
    (same : Names.insert idField (.string key) others = members) :
    members.find? idField = some (.string key) ∧ rereadMembers? members = some members := by
  have held : members.find? idField = some (.string key) := by
    rw [← same, Names.find?_insert_self]
  refine ⟨held, (Json.rereadMembers?_self_iff members).mpr fun member listed => ?_⟩
  rcases Names.mem_insert (same ▸ listed) with rfl | kept
  · rfl
  · -- The member was written for one of its name, and there is only one of its name.
    obtain ⟨value, written, again⟩ := Json.mem_of_mem_rereadMembers? read kept
    have first := (Names.find?_eq_some_iff ordered ..).mpr written
    have second := (Names.find?_eq_some_iff ordered member.1 member.2).mpr listed
    rwa [Option.some.inj (first.symm.trans second)] at again

/-- The documents of a target behind one more request. -/
def storeBehind (idField : String) (serial : Nat) (session : Session) (request : Request)
    (context : Context) (scope : Scope) : Store :=
  ((target idField serial).run context scope request session).2.2.store serial

/-- A request is answered with an object, and every object that is stored is as it was. -/
def LeavesAll (idField : String) (serial : Nat) (session : Session) (request : Request)
    (members : Names Json) : Prop :=
  ∀ context scope,
    Shows ((target idField serial).run context scope request session).1 .ok (.object members) ∧
      ∀ other,
        (Names.find? other (storeBehind idField serial session request context scope)).map
            Document.members =
          (Names.find? other (session.store serial)).map Document.members

/-- What comes of putting back what is shown under a key. -/
structure WrittenBack (idField : String) (serial : Nat) (session : Session) (api name : Segment)
    (key : String) (document : Document) (message : Message) : Prop where
  /-- The document is shown, -/
  shown : ∀ context scope,
    Shows ((target idField serial).run context scope (byQuery .get api name key message) session).1 .ok
      (.object document.members)
  /-- and putting it back changes nothing exactly if its key is a text and its real numbers are read back. -/
  unchanged_iff :
    LeavesAll idField serial session (writingBack api name key document.members message)
        document.members ↔
      document.members.find? idField = some (.string key) ∧ ReadsBackAll document.members
  /-- If the real numbers are read back, the document is answered and stored with its key as a text, -/
  keyed : ReadsBackAll document.members → ∀ context scope,
    Shows ((target idField serial).run context scope
        (writingBack api name key document.members message) session).1 .ok
        (.object (Names.insert idField (.string key) document.members)) ∧
      Names.find? key (storeBehind idField serial session
        (writingBack api name key document.members message) context scope) =
          some (replacement idField key (session.millis / 1000) document document.members)
  /-- and in any case all other documents stay. -/
  others_stay : ∀ context scope other, other ≠ key →
    Names.find? other (storeBehind idField serial session
        (writingBack api name key document.members message) context scope) =
      Names.find? other (session.store serial)

section

variable {serial : Nat} {session : Session}

@[simp]
theorem storeBehind_eq (context : Context) (scope : Scope) :
    storeBehind idField serial session request context scope =
      (stepOf idField serial session request).2 := by
  rw [storeBehind, target_run, store_withStore]

theorem leavesAll_iff :
    LeavesAll idField serial session request members ↔
      Shows (answerOf (stepOf idField serial session request).1) .ok (.object members) ∧
        ∀ other,
          (Names.find? other (stepOf idField serial session request).2).map Document.members =
            (Names.find? other (session.store serial)).map Document.members := by
  simp only [LeavesAll, storeBehind_eq, target_run, forall_const]

end

section

variable {serial : Nat} {session : Session} (api name : Segment) (message : Message)

theorem shows_of_get
    (idField : String)
    (filled : key ≠ "")
    (found : Names.find? key (session.store serial) = some document) :
    Shows (answerOf (stepOf idField serial session (byQuery .get api name key message)).1) .ok
      (.object document.members) := by
  have asked := (requestKey?_eq_some_iff ..).mpr (requestKey_byQuery .get api name filled message)
  rw [stepOf, serve_of_get rfl, readAt, asked]
  simp only [found]
  exact shows_dated document

theorem others_stay_of_put
    (filled : key ≠ "")
    (found : Names.find? key (session.store serial) = some document)
    (fits : Fits greatestDepth (.object members))
    {other : String}
    (different : other ≠ key) :
    Names.find? other (stepOf idField serial session (writingBack api name key members message)).2 =
      Names.find? other (session.store serial) := by
  cases read : rereadMembers? members with
  | none =>
      obtain ⟨text, refused⟩ := stepOf_of_unread fits read
      rw [refused]
  | some others => rw [stepOf_of_reread filled found fits read, Names.find?_insert_of_ne different]

theorem keyed_of_put
    (idField : String)
    (filled : key ≠ "")
    (found : Names.find? key (session.store serial) = some document)
    (fits : Fits greatestDepth (.object document.members))
    (back : ReadsBackAll document.members) :
    Shows (answerOf (stepOf idField serial session
        (writingBack api name key document.members message)).1) .ok
        (.object (Names.insert idField (.string key) document.members)) ∧
      Names.find? key (stepOf idField serial session
        (writingBack api name key document.members message)).2 =
          some (replacement idField key (session.millis / 1000) document document.members) := by
  have read := (rereadMembers?_self_iff_readsBackAll fits).mpr back
  rw [stepOf_of_reread filled found fits read, Names.find?_insert_self]
  exact ⟨shows_dated _, rfl⟩

/-- What is put back is refused or takes the place of the document, so all stays only if it is the same. -/
theorem leavesAll_writingBack_iff
    (filled : key ≠ "")
    (found : Names.find? key (session.store serial) = some document)
    (fits : Fits greatestDepth (.object document.members)) :
    LeavesAll idField serial session (writingBack api name key document.members message)
        document.members ↔
      document.members.find? idField = some (.string key) ∧ ReadsBackAll document.members := by
  have ordered : Names.Ordered document.members := fits.2.1
  rw [leavesAll_iff]
  constructor
  · rintro ⟨shows, stays⟩
    cases read : rereadMembers? document.members with
    | none =>
        obtain ⟨text, refused⟩ := stepOf_of_unread fits read
        rw [refused] at shows
        cases (refuses_complaint _ _).status?_eq.symm.trans shows.status?_eq
    | some others =>
        have same := stays key
        rw [stepOf_of_reread filled found fits read, Names.find?_insert_self, found] at same
        obtain ⟨held, back⟩ := reread_of_insert_eq ordered read (Option.some.inj same)
        exact ⟨held, (rereadMembers?_self_iff_readsBackAll fits).mp back⟩
  · rintro ⟨held, back⟩
    obtain ⟨shows, placed⟩ := keyed_of_put api name message idField filled found fits back
    have same := Names.insert_of_find? ordered held
    rw [same] at shows
    refine ⟨shows, fun other => ?_⟩
    by_cases different : other = key
    · rw [different, placed, found, Option.map_some, Option.map_some, replacement, same]
    · rw [others_stay_of_put api name message filled found fits different]

end

/--
Putting back what a document is shown as changes nothing exactly if the document holds its key as a text and
its real numbers are read back; otherwise the key becomes a text.  All other documents stay as they are.
-/
theorem written_back
    (idField : String)
    {serial : Nat}
    (session : Session)
    (visits : List (Visit serial))
    {key : String}
    {document : Document}
    (stored : (key, document) ∈ (reached idField (session.withStore serial []) visits).store serial)
    (api name : Segment)
    (message : Message) :
    WrittenBack idField serial (reached idField (session.withStore serial []) visits) api name key
      document message := by
  have started : ((session.withStore serial []).store serial).Named idField := by
    rw [store_withStore]
    exact .empty idField
  have named := started.reached visits
  have fits : Fits greatestDepth (.object document.members) :=
    fitting_reached idField session visits _ stored
  generalize reached idField (session.withStore serial []) visits = session at stored named
  have filled := named.filled stored
  have found := (Names.find?_eq_some_iff named.ordered ..).mpr stored
  refine ⟨fun context scope => ?_, leavesAll_writingBack_iff api name message filled found fits,
    fun back context scope => ?_, fun context scope other different => ?_⟩
  · simp only [target_run]
    exact shows_of_get api name message idField filled found
  · simp only [target_run, storeBehind_eq]
    exact keyed_of_put api name message idField filled found fits back
  · rw [storeBehind_eq]
    exact others_stay_of_put api name message filled found fits different

/-! ## A jar of saffron -/

/-- A request that adds an object, with nothing else before it. -/
def adding (members : Names Json) : Visit 0 :=
  { filing "" with
    request := .make ⟨0⟩ .post ⟨none, "", "/kitchen/spices", none⟩ [] []
      (Bytes.ofString (Json.object members).render) }

/-- A jar with a number for its key. -/
def saffron : Names Json :=
  [("id", .number (.integer 9)), ("label", .array [.string "red", .object [("origin", .null)]])]

/-- The jar with its key as a text. -/
def relabelled : Names Json :=
  [("id", .string "9"), ("label", .array [.string "red", .object [("origin", .null)]])]

/-- A session in which the jar was added. -/
def stocked : Session :=
  reached "id" (morning.withStore 0 []) [adding saffron]

theorem written_back_saffron :
    ("9", ⟨saffron, 0, 0⟩) ∈ (reached "id" (morning.withStore 0 []) [adding saffron]).store 0 ∧
      WrittenBack "id" 0 (reached "id" (morning.withStore 0 []) [adding saffron]) kitchen spices "9"
        ⟨saffron, 0, 0⟩ (label .null) := by
  have stored : ("9", ⟨saffron, 0, 0⟩) ∈
      (reached "id" (morning.withStore 0 []) [adding saffron]).store 0 := by
    decide +kernel
  exact ⟨stored, written_back "id" morning _ stored kitchen spices (label .null)⟩

/-- The status and the body of what the target answers, and the documents behind it. -/
def restocking (request : Request) : Option (Status × Bytes) × Store :=
  match (target "id" 0).run (.ofToken []) default request stocked with
  | (.done (some response), _, session) => (some (response.status, response.body), session.store 0)
  | (_, _, session) => (none, session.store 0)

/-- A jar with a number for its key is shown as it was added, and holds a text once that is put back. -/
theorem saffron_relabelled :
    stocked.store 0 = [("9", ⟨saffron, 0, 0⟩)] ∧
      restocking (byQuery .get kitchen spices "9" (label .null)) =
        (some (.ok, Bytes.ofString (Json.object saffron).render), [("9", ⟨saffron, 0, 0⟩)]) ∧
      restocking (writingBack kitchen spices "9" saffron (label .null)) =
        (some (.ok, Bytes.ofString (Json.object relabelled).render), [("9", ⟨relabelled, 0, 0⟩)]) ∧
      ¬ LeavesAll "id" 0 stocked (writingBack kitchen spices "9" saffron (label .null)) saffron := by
  have before : stocked.store 0 = [("9", ⟨saffron, 0, 0⟩)] := by decide +kernel
  have behind : storeBehind "id" 0 stocked (writingBack kitchen spices "9" saffron (label .null))
      (.ofToken []) default = [("9", ⟨relabelled, 0, 0⟩)] := by
    decide +kernel
  refine ⟨before, by decide +kernel, by decide +kernel, fun same => ?_⟩
  have kept := (same (.ofToken []) default).2 "9"
  rw [behind, before] at kept
  exact absurd kept (by decide)

end RequestHub.KeyValue
