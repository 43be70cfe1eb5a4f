import RequestHub.Proofs.KeyValue.Naming
import RequestHub.Proofs.Query.Parameters
import RequestHub.Proofs.Route.Transparency

/-!
# Two ways to name a document

A request names a document by the parameter `id` or by the third segment of its path.  The parameter is
decoded, and the segment is taken as it is spelled.  So the two ways lead to the same document exactly if
nothing in its key has to be encoded: only then is the key the third segment that spells it.

A key that is not its own encoding can be named by the parameter alone.  Its encoding, taken for a key, is
another one, and the answer is about the document under that key, or that there is none.
-/

namespace RequestHub

namespace Route

open Text

/-- Three parts between slashes are cut from a path that they make up. -/
theorem segments_three
    {first second third : List Char}
    (firstWhole : '/' ∉ first)
    (secondWhole : '/' ∉ second)
    (thirdWhole : '/' ∉ third)
    (firstFilled : first ≠ [])
    (thirdFilled : third ≠ []) :
    segments ('/' :: (first ++ '/' :: (second ++ '/' :: third))) = [first, second, third] := by
  have stays {part : List Char} (whole : '/' ∉ part) : ∀ char ∈ part, decide (char = '/') = false :=
    fun char member => decide_eq_false fun slash => whole (slash ▸ member)
  obtain ⟨rest, shorter, trimmed⟩ := trimBy_append firstFilled (stays firstWhole) thirdFilled
    (stays thirdWhole) ('/' :: (second ++ ['/'])) []
  obtain rfl := List.prefix_nil.mp shorter
  have opened (items : List Char) :
      trimBy (fun char => decide (char = '/')) ('/' :: items) =
        trimBy (fun char => decide (char = '/')) items :=
    trimBy_cons rfl items
  have inside : first ++ '/' :: (second ++ '/' :: third) =
      first ++ ('/' :: (second ++ ['/']) ++ (third ++ [])) := by simp
  rw [segments, opened, inside, trimmed, ← inside, cut_append_cons firstWhole,
    cut_append_cons secondWhole, cut_of_not_mem thirdWhole]

theorem segments_behind
    {api name : Segment}
    {third : String}
    {headed : "/" ++ third = "" ∨ ∃ rest, ("/" ++ third).toList = '/' :: rest}
    (filled : third ≠ "")
    (whole : Text.Whole third) :
    segments (spelled api name ⟨"/" ++ third, headed⟩).toList =
      [api.text.toList, name.text.toList, third.toList] := by
  rw [toList_spelled, String.toList_append]
  exact segments_three api.whole name.whole whole (mt String.toList_eq_nil_iff.mp api.nonempty)
    (mt String.toList_eq_nil_iff.mp filled)

end Route

namespace KeyValue

open Route (Segment Tail spelled)

/-! ## The requests -/

/-- What a request holds besides its method and its target. -/
structure Message where
  id : Uuid
  scheme : Option String
  authority : String
  headers : Headers
  trailers : Headers
  body : Bytes

/-- The percent-encoding of a key behind a slash. -/
def keyTail (key : String) : Tail :=
  ⟨"/" ++ Text.Percent.encode key, Or.inr ⟨(Text.Percent.encode key).toList, by simp⟩⟩

/-- The request whose path goes on with the encoding of a key behind the names of a service. -/
def byPath (method : Method) (api name : Segment) (key : String) (message : Message) : Request :=
  .make message.id method
    ⟨message.scheme, message.authority, spelled api name (keyTail key), none⟩
    message.headers message.trailers message.body

/-- The request whose path ends with the names of a service, and whose query gives the key. -/
def byQuery (method : Method) (api name : Segment) (key : String) (message : Message) : Request :=
  .make message.id method
    ⟨message.scheme, message.authority, spelled api name ⟨"", Or.inl rfl⟩,
      some ("id" ++ "=" ++ Text.Percent.encode key)⟩
    message.headers message.trailers message.body

variable {idField : String} {store : Store} {key : String}

@[simp]
theorem method_byPath
    (method : Method)
    (api name : Segment)
    (key : String)
    (message : Message) :
    (byPath method api name key message).method = method := rfl

@[simp]
theorem method_byQuery
    (method : Method)
    (api name : Segment)
    (key : String)
    (message : Message) :
    (byQuery method api name key message).method = method := rfl

@[simp]
theorem json_byPath
    (method : Method)
    (api name : Segment)
    (key : String)
    (message : Message) :
    (byPath method api name key message).json = Json.ofBytes message.body := rfl

@[simp]
theorem json_byQuery
    (method : Method)
    (api name : Segment)
    (key : String)
    (message : Message) :
    (byQuery method api name key message).json = Json.ofBytes message.body := rfl

/-- A key in the query is decoded. -/
theorem requestKey_byQuery
    (method : Method)
    (api name : Segment)
    (filled : key ≠ "")
    (message : Message) :
    RequestKey (byQuery method api name key message) key := by
  have params : (byQuery method api name key message).params =
      Query.parameters ("id" ++ "=" ++ Text.Percent.encode key) := by
    rw [byQuery, Request.make, Option.map_some, Option.getD_some]
  have plain : Text.Percent.Plain "id" := by decide
  refine .param ?_ filled
  rw [Request.param?, params, Query.find?_parameters_encode plain]

/-- A key in the path is taken as it is spelled. -/
theorem requestKey_byPath
    (method : Method)
    {api name : Segment}
    (filled : key ≠ "")
    (outside : Route.isInternal (spelled api name (keyTail key)) = false)
    (message : Message) :
    RequestKey (byPath method api name key message) (Text.Percent.encode key) := by
  have missing : (byPath method api name key message).param? "id" = none := rfl
  have present : (spelled api name (keyTail key)).isEmpty = false := by
    rw [← Bool.not_eq_true, String.isEmpty_iff, ← String.toList_eq_nil_iff, Route.toList_spelled]
    exact List.cons_ne_nil _ _
  have path : (byPath method api name key message).route.path = spelled api name (keyTail key) := by
    change (Route.ofPath (if (spelled api name (keyTail key)).isEmpty then _
      else spelled api name (keyTail key))).path = _
    rw [present, if_neg Bool.false_ne_true, Route.ofPath_spelled _ _ _ outside]
  refine .segment (fun id given => ?_) ?_ (Text.Percent.encode_ne_empty filled)
  · rw [missing] at given
    cases given
  · rw [path, keyTail, Route.segments_behind (Text.Percent.encode_ne_empty filled)
      (Text.Percent.not_mem_encode (by decide) (by decide) key)]
    rfl

/-! ## What a step asks a request for -/

/-- A step depends on the method of a request, on what its body spells and on the key that it names. -/
theorem serve_congr
    {left right : Request}
    (method : left.method = right.method)
    (spelled : left.json = right.json)
    (named : requestKey? left = requestKey? right)
    (fresh : Uuid)
    (now : Nat)
    (store : Store) :
    serve idField fresh now store left = serve idField fresh now store right := by
  have document : readDocument left = readDocument right := by
    rw [readDocument, readDocument, spelled]
  simp only [serve, create, readAt, replace, delete, method, document, named]

/-- Objects that bear keys are written alike only if they bear the same key. -/
theorem Bears.eq_of_render
    {left right : String}
    {value other : Json}
    (first : Bears idField left value)
    (second : Bears idField right other)
    (same : value.renderChars = other.renderChars) :
    left = right := by
  -- The text of a string begins with a quote, and that of a number has none.
  have apart {text : String} {number : Json.Number}
      (alike : (Json.string text).renderChars = (Json.number number).renderChars) : False := by
    have quote : '"' ∈ (Json.number number).renderChars := by
      rw [← alike]
      exact List.mem_cons_self
    exact number.bare_render.2 '"' quote (by decide)
  cases first with
  | text held =>
      cases second with
      | text held' => exact Json.eq_of_renderString ((Json.alike_of_object same).find? held held')
      | number held' => exact (apart ((Json.alike_of_object same).find? held held')).elim
  | number held written =>
      cases second with
      | text held' => exact (apart ((Json.alike_of_object same).find? held held').symm).elim
      | number held' written' =>
          rw [← written, ← written', ← String.toList_inj]
          exact (Json.alike_of_object same).find? held held'

/-- Documents that bear keys are shown alike only if they bear the same key. -/
theorem Bears.eq_of_dated
    {left right : String}
    {document other : Document}
    (first : Bears idField left (.object document.members))
    (second : Bears idField right (.object other.members))
    (same : dated document = dated other) :
    left = right := by
  have bodies : Bytes.ofString (Json.object document.members).render =
      Bytes.ofString (Json.object other.members).render := congrArg Response.body same
  have texts := congrArg Bytes.decode? bodies
  rw [Bytes.decode?_ofString, Bytes.decode?_ofString] at texts
  refine first.eq_of_render second ?_
  have chars := congrArg String.toList (Option.some.inj texts)
  rwa [Json.render, Json.render, String.toList_ofList, String.toList_ofList] at chars

/-! ## What a step tells of the key -/

section

variable {left right : Request} {other : String} {fresh : Uuid} {now : Nat} {document : Document}

theorem dated_ne_notFound
    (document : Document)
    (key : String) :
    dated document ≠ notFound key := by
  intro same
  cases congrArg Response.status same

/-- What is shown under two keys is the same only if the keys are. -/
theorem readAt_tells_key
    (named : store.Named idField)
    (stored : Names.find? key store = some document)
    (leftKey : RequestKey left other)
    (rightKey : RequestKey right key)
    (same : readAt store left = readAt store right) :
    other = key := by
  rw [readAt, readAt, (requestKey?_eq_some_iff ..).mpr leftKey,
    (requestKey?_eq_some_iff ..).mpr rightKey] at same
  simp only [stored] at same
  have bears := named.bears ((Names.find?_eq_some_iff named.ordered ..).mp stored)
  cases found : Names.find? other store with
  | none =>
      rw [found] at same
      exact (dated_ne_notFound _ _ same.symm).elim
  | some held =>
      rw [found] at same
      exact (named.bears ((Names.find?_eq_some_iff named.ordered ..).mp found)).eq_of_dated bears same

/-- What is left behind a removal is the same for two keys only if the keys are. -/
theorem delete_tells_key
    (stored : Names.find? key store = some document)
    (leftKey : RequestKey left other)
    (rightKey : RequestKey right key)
    (same : (delete store left).2 = (delete store right).2) :
    other = key := by
  have gone : Names.find? key (delete store right).2 = none := by
    rw [delete, (requestKey?_eq_some_iff ..).mpr rightKey]
    simp only [stored]
    rw [Names.find?_erase, if_pos rfl]
  rw [← same, delete, (requestKey?_eq_some_iff ..).mpr leftKey] at gone
  refine Decidable.byContradiction fun different => ?_
  cases found : Names.find? other store with
  | none =>
      simp only [found, stored] at gone
      cases gone
  | some held =>
      simp only [found] at gone
      rw [Names.find?_erase, if_neg (Ne.symm different), stored] at gone
      cases gone

theorem replace_of_requestKey
    {members : Names Json}
    (object : HasObject right members)
    (rightKey : RequestKey right key) :
    replace idField now store right =
      match Names.find? key store with
      | none => (notFound key, store)
      | some old =>
          let document : Document := ⟨Names.insert idField (.string key) members, old.created, now⟩
          (dated document, Names.insert key document store) := by
  rw [replace, readDocument_of_object object, (requestKey?_eq_some_iff ..).mpr rightKey]
  cases found : Names.find? key store with
  | none => simp [found]
  | some old => simp [found]

/-- The answer to a replacement is the same for two keys only if the keys are. -/
theorem replace_tells_key
    {members : Names Json}
    (stored : Names.find? key store = some document)
    (object : HasObject left members)
    (again : HasObject right members)
    (leftKey : RequestKey left other)
    (rightKey : RequestKey right key)
    (same : (replace idField now store left).1 = (replace idField now store right).1) :
    other = key := by
  rw [replace_of_requestKey object leftKey, replace_of_requestKey again rightKey, stored] at same
  cases found : Names.find? other store with
  | none =>
      rw [found] at same
      exact (dated_ne_notFound _ _ same.symm).elim
  | some held =>
      rw [found] at same
      exact (ownKey_insert leftKey.ne_empty members).bears.eq_of_dated
        (ownKey_insert rightKey.ne_empty members).bears same

end

theorem serve_of_get
    {request : Request}
    (method : request.method = .get)
    (fresh : Uuid)
    (now : Nat)
    (store : Store) :
    serve idField fresh now store request = (.ok (readAt store request), store) := by
  rw [serve, method]

theorem serve_of_put
    {request : Request}
    (method : request.method = .put)
    (fresh : Uuid)
    (now : Nat)
    (store : Store) :
    serve idField fresh now store request =
      (.ok (replace idField now store request).1, (replace idField now store request).2) := by
  rw [serve, method]

theorem serve_of_delete
    {request : Request}
    (method : request.method = .delete)
    (fresh : Uuid)
    (now : Nat)
    (store : Store) :
    serve idField fresh now store request =
      (.ok (delete store request).1, (delete store request).2) := by
  rw [serve, method]

/-! ## Both ways -/

/-- A target answers two requests alike and has the same documents behind either. -/
def AnsweredAlike (idField : String) (serial : Nat) (session : Session) (left right : Request) : Prop :=
  ∀ context scope,
    ((target idField serial).run context scope left session).1 =
        ((target idField serial).run context scope right session).1 ∧
      ((target idField serial).run context scope left session).2.2.store serial =
        ((target idField serial).run context scope right session).2.2.store serial

theorem answeredAlike_iff
    {serial : Nat}
    {session : Session}
    {left right : Request} :
    AnsweredAlike idField serial session left right ↔
      stepOf idField serial session left = stepOf idField serial session right := by
  have answers {first second : Except Failure Response} :
      answerOf first = answerOf second ↔ first = second := by
    cases first <;> cases second <;> simp [answerOf]
  simp only [AnsweredAlike, target_run, store_withStore, answers, ← Prod.ext_iff, forall_const]

/-- How the two ways to name a document compare. -/
structure Addressed (idField : String) (serial : Nat) (session : Session) (api name : Segment)
    (key : String) (message : Message) : Prop where
  /-- The query names the key, and the path its encoding. -/
  query_names : ∀ method, RequestKey (byQuery method api name key message) key
  path_names : ∀ method, RequestKey (byPath method api name key message) (Text.Percent.encode key)
  /-- A document is shown and removed in both ways exactly if its key is spelled as it is. -/
  get_alike_iff :
    AnsweredAlike idField serial session (byPath .get api name key message)
      (byQuery .get api name key message) ↔ Text.Percent.Plain key
  delete_alike_iff :
    AnsweredAlike idField serial session (byPath .delete api name key message)
      (byQuery .delete api name key message) ↔ Text.Percent.Plain key
  /-- It is replaced in both ways exactly then, and what is no object is refused in both. -/
  put_alike_iff :
    AnsweredAlike idField serial session (byPath .put api name key message)
      (byQuery .put api name key message) ↔
        (∃ members, Json.ofBytes message.body = .ok (.object members)) → Text.Percent.Plain key

/--
Both ways to name a document that is stored lead to it exactly if nothing in its key is encoded.  The path
is one that leads to the two names, and not that of an internal call, whose prefix would be dropped.
-/
theorem addressed_alike_iff
    (idField : String)
    {serial : Nat}
    (session : Session)
    (visits : List (Visit serial))
    {api name : Segment}
    {key : String}
    {document : Document}
    (stored : (key, document) ∈ (reached idField (session.withStore serial []) visits).store serial)
    (outside : Route.isInternal (spelled api name (keyTail key)) = false)
    (message : Message) :
    Addressed idField serial (reached idField (session.withStore serial []) visits) api name key
      message := by
  have started : ((session.withStore serial []).store serial).Named idField := by
    rw [store_withStore]
    exact .empty idField
  have named := started.reached visits
  generalize reached idField (session.withStore serial []) visits = session at stored named
  have filled := named.filled stored
  have found := (Names.find?_eq_some_iff named.ordered ..).mpr stored
  have query_names (method : Method) := requestKey_byQuery method api name filled message
  have path_names (method : Method) := requestKey_byPath method filled outside message
  -- A plain key is its own encoding, so that both requests name it.
  have alike (method : Method) (plain : Text.Percent.Plain key) :
      AnsweredAlike idField serial session (byPath method api name key message)
        (byQuery method api name key message) := by
    have same := (Text.Percent.encode_eq_iff key).mpr plain
    refine answeredAlike_iff.mpr (serve_congr ?_ ?_ ?_ _ _ _)
    · rw [method_byPath, method_byQuery]
    · rw [json_byPath, json_byQuery]
    · rw [(requestKey?_eq_some_iff ..).mpr (path_names method), same,
        (requestKey?_eq_some_iff ..).mpr (query_names method)]
  have tells (same : Text.Percent.encode key = key) := (Text.Percent.encode_eq_iff key).mp same
  refine ⟨query_names, path_names, ⟨fun same => tells ?_, alike .get⟩,
    ⟨fun same => tells ?_, alike .delete⟩, ⟨?_, fun object => ?_⟩⟩
  · have steps := answeredAlike_iff.mp same
    rw [stepOf, stepOf, serve_of_get (method_byPath ..), serve_of_get (method_byQuery ..)] at steps
    exact readAt_tells_key named found (path_names .get) (query_names .get)
      (Except.ok.inj (Prod.mk.inj steps).1)
  · have steps := answeredAlike_iff.mp same
    rw [stepOf, stepOf, serve_of_delete (method_byPath ..), serve_of_delete (method_byQuery ..)] at steps
    exact delete_tells_key found (path_names .delete) (query_names .delete) (Prod.mk.inj steps).2
  · rintro same ⟨members, object⟩
    have steps := answeredAlike_iff.mp same
    rw [stepOf, stepOf, serve_of_put (method_byPath ..), serve_of_put (method_byQuery ..)] at steps
    have pathObject : HasObject (byPath .put api name key message) members := by
      rw [HasObject, json_byPath, object]
    have queryObject : HasObject (byQuery .put api name key message) members := by
      rw [HasObject, json_byQuery, object]
    exact tells (replace_tells_key found pathObject queryObject (path_names .put) (query_names .put)
      (Except.ok.inj (Prod.mk.inj steps).1))
  · by_cases spells : ∃ members, Json.ofBytes message.body = .ok (.object members)
    · exact alike .put (object spells)
    · -- Without an object nobody asks for the key.
      have document : readDocument (byPath .put api name key message) =
          readDocument (byQuery .put api name key message) := by
        rw [readDocument, readDocument, json_byPath, json_byQuery]
      have other : ∀ members, ¬ HasObject (byPath .put api name key message) members := by
        intro members object
        rw [HasObject, json_byPath] at object
        exact spells ⟨members, object⟩
      obtain ⟨_, unread⟩ := readDocument_of_other other
      refine answeredAlike_iff.mpr ?_
      rw [stepOf, stepOf, serve_of_put (method_byPath ..), serve_of_put (method_byQuery ..),
        replace, replace, ← document, unread]

/-! ## A rack of spices -/

/-- The first segment of the paths to a rack. -/
def kitchen : Segment := ⟨"kitchen", by decide, by decide⟩

/-- The second segment. -/
def spices : Segment := ⟨"spices", by decide, by decide⟩

/-- A message with nothing but a body. -/
def label (body : Json) : Message :=
  ⟨⟨0⟩, none, "", [], [], Bytes.ofString body.render⟩

/-- A request that adds a document with nothing but a key, with nothing else before it. -/
def filing (key : String) : Visit 0 where
  interlude := ⟨id, fun _ => rfl, fun _ => Nat.le_refl _⟩
  context := .ofToken []
  scope := default
  request := .make ⟨0⟩ .post ⟨none, "", "/kitchen/spices", none⟩ [] []
    (Bytes.ofString (Json.ofMembers [("id", .string key)]).render)

/-- A session in which nothing was asked for. -/
def morning : Session :=
  .start 0 (fun _ => .refused) (fun _ => 0) default

theorem addressed_alike_iff_thyme :
    ("thyme", ⟨[("id", .string "thyme")], 0, 0⟩) ∈
        (reached "id" (morning.withStore 0 []) [filing "thyme"]).store 0 ∧
      Route.isInternal (spelled kitchen spices (keyTail "thyme")) = false ∧
      Addressed "id" 0 (reached "id" (morning.withStore 0 []) [filing "thyme"]) kitchen
        spices "thyme" (label .null) := by
  have stored : ("thyme", ⟨[("id", .string "thyme")], 0, 0⟩) ∈
      (reached "id" (morning.withStore 0 []) [filing "thyme"]).store 0 := by
    decide +kernel
  have outside : Route.isInternal (spelled kitchen spices (keyTail "thyme")) = false := by
    decide +kernel
  exact ⟨stored, outside, addressed_alike_iff "id" morning _ stored outside (label .null)⟩

/-- A session in which a document with a blank in its key was added. -/
def salted : Session :=
  reached "id" (morning.withStore 0 []) [filing "sea salt"]

/-- The status of what the target answers, and the documents behind it. -/
def salting (request : Request) : Option Status × Store :=
  let (answer, _, session) := (target "id" 0).run (.ofToken []) default request salted
  (status? answer, session.store 0)

/-- A document with a blank in its key is found by the parameter, and missed by the path. -/
theorem sea_salt_missed_by_path :
    salted.store 0 = [("sea salt", ⟨[("id", .string "sea salt")], 0, 0⟩)] ∧
      spelled kitchen spices (keyTail "sea salt") = "/kitchen/spices/sea%20salt" ∧
      salting (byQuery .get kitchen spices "sea salt" (label .null)) = (some .ok, salted.store 0) ∧
      salting (byPath .get kitchen spices "sea salt" (label .null)) = (some .notFound, salted.store 0) ∧
      salting (byQuery .delete kitchen spices "sea salt" (label .null)) = (some .noContent, []) ∧
      salting (byPath .delete kitchen spices "sea salt" (label .null)) =
        (some .notFound, salted.store 0) ∧
      (salting (byQuery .put kitchen spices "sea salt" (label (.object [])))).1 = some .ok ∧
      (salting (byPath .put kitchen spices "sea salt" (label (.object [])))).1 = some .notFound ∧
      ¬ AnsweredAlike "id" 0 salted (byPath .get kitchen spices "sea salt" (label .null))
        (byQuery .get kitchen spices "sea salt" (label .null)) := by
  have found : salting (byQuery .get kitchen spices "sea salt" (label .null)) =
      (some .ok, salted.store 0) := by
    decide +kernel
  have missed : salting (byPath .get kitchen spices "sea salt" (label .null)) =
      (some .notFound, salted.store 0) := by
    decide +kernel
  refine ⟨by decide +kernel, by decide +kernel, found, missed, by decide +kernel, by decide +kernel,
    by decide +kernel, by decide +kernel, fun alike => ?_⟩
  have answers := congrArg status? (alike (.ofToken []) default).1
  have statuses := (congrArg Prod.fst missed).symm.trans (answers.trans (congrArg Prod.fst found))
  exact absurd statuses (by decide)

end KeyValue

end RequestHub
