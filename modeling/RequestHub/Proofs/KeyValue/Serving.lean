import RequestHub.Proofs.KeyValue.Contents

/-!
# One step of a key-value target

A step of a target whose store holds a map serves as the map, and leaves a store that holds the next
one.  Each of the four operations is followed along the ways in which it can go on; the step chooses the
operation by the method of the request.  A step whose answer does not say that something was changed
leaves the store as it was, with the times of its documents.
-/

namespace RequestHub.KeyValue

variable {idField : String} {fresh : Uuid} {now : Nat} {store : Store} {contents : Contents}
  {request : Request} {members : Names Json} {key : String}

/-- The answer that a target gives for what its step gives. -/
def answerOf : Except Failure Response → Outcome (Option Response)
  | .ok response => .done (some response)
  | .error failure => .failed failure

theorem shows_shown
    (status : Status)
    (document : Document) :
    Shows (answerOf (.ok (shown status document))) status (.object document.members) :=
  ⟨shown status document, rfl, rfl, rfl⟩

theorem shows_dated
    (document : Document) :
    Shows (answerOf (.ok (dated document))) .ok (.object document.members) :=
  ⟨dated document, rfl, rfl, rfl⟩

theorem refuses_complaint
    (status : Status)
    (message : String) :
    Refuses (answerOf (.ok (complaint status message))) status := by
  refine ⟨message, complaint status message, rfl, rfl, ?_⟩
  rw [complaint, Response.ofJson]

/-- An answer that says that an object was added, replaced or removed. -/
def Alters (method : Method) (answer : Outcome (Option Response)) : Prop :=
  status? answer = some .created ∨ (method = .put ∧ status? answer = some .ok) ∨
    status? answer = some .noContent

/-! ## Reading the object of a request -/

theorem readDocument_of_object
    (object : HasObject request members) :
    readDocument request = .ok members := by
  have spelled : request.json = .ok (.object members) := object
  rw [readDocument, spelled]

theorem readDocument_of_other
    (other : ∀ members, ¬ HasObject request members) :
    ∃ message, readDocument request = .error (complaint .badRequest message) := by
  rw [readDocument]
  split
  · rename_i members spelled
    exact absurd spelled (other members)
  · exact ⟨_, rfl⟩
  · exact ⟨_, rfl⟩

/-! ## The operations -/

/-- Adds an object under a key. -/
def addAt (now : Nat) (store : Store) (key : String) (members : Names Json) : Response × Store :=
  match Names.find? key store with
  | some _ => (complaint .conflict ("document " ++ key ++ " already exists"), store)
  | none => (shown .created ⟨members, now, now⟩, Names.insert key ⟨members, now, now⟩ store)

/-- An object is added under its own key or a new one. -/
theorem create_of_object
    (idField : String)
    (fresh : Uuid)
    (now : Nat)
    (store : Store)
    (object : HasObject request members) :
    ∃ key document, Entry idField fresh members key document ∧
      create idField fresh now store request = addAt now store key document := by
  have read := readDocument_of_object object
  cases own : documentKey? idField members with
  | some key =>
      refine ⟨key, members, Or.inl ⟨?_, rfl⟩, ?_⟩
      · exact (documentKey?_eq_some_iff ..).mp own
      · rw [create, read]
        simp only [own]
        rfl
  | none =>
      refine ⟨fresh.text, _, Or.inr ⟨?_, rfl, rfl⟩, ?_⟩
      · intro key owned
        rw [← documentKey?_eq_some_iff, own] at owned
        cases owned
      · rw [create, read]
        simp only [own]
        rfl

theorem create_serves
    (idField : String)
    (fresh : Uuid)
    (now : Nat)
    (request : Request)
    (holds : store.Holds contents) :
    ∃ next, Creation idField fresh contents request
        (answerOf (.ok (create idField fresh now store request).1)) next ∧
      Store.Holds (create idField fresh now store request).2 next ∧
      (status? (answerOf (.ok (create idField fresh now store request).1)) = some .created ∨
        (create idField fresh now store request).2 = store) := by
  by_cases spelled : ∃ members, HasObject request members
  · obtain ⟨members, object⟩ := spelled
    obtain ⟨key, document, entry, created⟩ := create_of_object idField fresh now store object
    rw [created, addAt]
    cases found : Names.find? key store with
    | some old =>
        exact ⟨contents, .conflict object entry (holds.mem_of_find? found) (refuses_complaint ..),
          holds, Or.inr rfl⟩
    | none =>
        exact ⟨_, .created object entry (holds.not_mem_of_find? found) (shows_shown ..),
          holds.insert key ⟨document, now, now⟩, Or.inl rfl⟩
  · rw [not_exists] at spelled
    obtain ⟨message, unread⟩ := readDocument_of_other spelled
    rw [create, unread]
    exact ⟨contents, .malformed spelled (refuses_complaint ..), holds, Or.inr rfl⟩

theorem readAt_serves
    (request : Request)
    (holds : store.Holds contents) :
    Reading contents request (answerOf (.ok (readAt store request))) contents := by
  cases named : requestKey? request with
  | some key =>
      have names := (requestKey?_eq_some_iff request key).mp named
      rw [readAt, named]
      cases found : Names.find? key store with
      | some document =>
          simp only [found]
          exact .shown names (holds.lookup_of_find? found) (shows_dated document)
      | none =>
          simp only [found]
          exact .missing names (holds.not_mem_of_find? found) (refuses_complaint ..)
  | none =>
      have unnamed := (requestKey?_eq_none_iff request).mp named
      rw [readAt, named]
      refine .listed unnamed holds.pairwise_keys holds.mem_keys_iff ?_
      rw [← holds.values_eq, List.map_map]
      exact ⟨_, rfl, rfl, rfl⟩

theorem replace_serves
    (idField : String)
    (now : Nat)
    (request : Request)
    (holds : store.Holds contents) :
    ∃ next, Replacement idField contents request
        (answerOf (.ok (replace idField now store request).1)) next ∧
      Store.Holds (replace idField now store request).2 next ∧
      (status? (answerOf (.ok (replace idField now store request).1)) = some .ok ∨
        (replace idField now store request).2 = store) := by
  by_cases spelled : ∃ members, HasObject request members
  · obtain ⟨members, object⟩ := spelled
    rw [replace, readDocument_of_object object]
    cases place : (requestKey? request).orElse fun _ => documentKey? idField members with
    | some key =>
        have placed := (placeKey_iff ..).mp place
        cases found : Names.find? key store with
        | some old =>
            simp only [place, found]
            exact ⟨_, .replaced object placed (holds.mem_of_find? found) (shows_dated _),
              holds.insert key _, Or.inl rfl⟩
        | none =>
            simp only [place, found]
            exact ⟨contents,
              .missing object placed (holds.not_mem_of_find? found) (refuses_complaint ..), holds,
              Or.inr trivial⟩
    | none =>
        have nowhere : ∀ key, ¬ PlaceKey idField request members key := by
          intro key placed
          rw [← placeKey_iff, place] at placed
          cases placed
        simp only [place]
        exact ⟨contents, .keyless object nowhere (refuses_complaint ..), holds, Or.inr trivial⟩
  · rw [not_exists] at spelled
    obtain ⟨message, unread⟩ := readDocument_of_other spelled
    rw [replace, unread]
    exact ⟨contents, .malformed spelled (refuses_complaint ..), holds, Or.inr rfl⟩

theorem delete_serves
    (request : Request)
    (holds : store.Holds contents) :
    ∃ next, Removal contents request (answerOf (.ok (delete store request).1)) next ∧
      Store.Holds (delete store request).2 next ∧
      (status? (answerOf (.ok (delete store request).1)) = some .noContent ∨
        (delete store request).2 = store) := by
  cases named : requestKey? request with
  | some key =>
      have names := (requestKey?_eq_some_iff request key).mp named
      rw [delete, named]
      cases found : Names.find? key store with
      | some document =>
          simp only [found]
          exact ⟨_, .removed names (holds.mem_of_find? found), holds.erase key, Or.inl rfl⟩
      | none =>
          simp only [found]
          exact ⟨contents, .missing names (holds.not_mem_of_find? found) (refuses_complaint ..),
            holds, Or.inr trivial⟩
  | none =>
      have unnamed := (requestKey?_eq_none_iff request).mp named
      rw [delete, named]
      exact ⟨contents, .keyless unnamed (refuses_complaint ..), holds, Or.inr rfl⟩

/-- A step from a store that holds a map serves as the map. -/
theorem serve_serves
    (idField : String)
    (fresh : Uuid)
    (now : Nat)
    (request : Request)
    (holds : store.Holds contents) :
    ∃ next, Served idField fresh contents request
        (answerOf (serve idField fresh now store request).1) next ∧
      Store.Holds (serve idField fresh now store request).2 next ∧
      (Alters request.method (answerOf (serve idField fresh now store request).1) ∨
        (serve idField fresh now store request).2 = store) := by
  cases method : request.method with
  | post =>
      rw [serve, method]
      obtain ⟨next, creation, held, altered⟩ := create_serves idField fresh now request holds
      exact ⟨next, .post method creation, held, altered.imp_left Or.inl⟩
  | get =>
      rw [serve, method]
      exact ⟨contents, .get method (readAt_serves request holds), holds, Or.inr rfl⟩
  | put =>
      rw [serve, method]
      obtain ⟨next, replacement, held, altered⟩ := replace_serves idField now request holds
      refine ⟨next, .put method replacement, held, altered.imp_left ?_⟩
      intro status
      exact Or.inr (Or.inl ⟨rfl, status⟩)
  | delete =>
      rw [serve, method]
      obtain ⟨next, removal, held, altered⟩ := delete_serves request holds
      refine ⟨next, .delete method removal, held, altered.imp_left ?_⟩
      intro status
      exact Or.inr (Or.inr status)
  | head | options | patch | trace | connect =>
      rw [serve, method]
      have other : request.method ∉ [Method.post, .get, .put, .delete] := by
        rw [method]
        decide
      have refused : Served idField fresh contents request
          (.failed (.unsupportedMethod request.method.name)) contents := .unsupported other
      rw [method] at refused
      exact ⟨contents, refused, holds, Or.inr rfl⟩

end RequestHub.KeyValue
