import RequestHub.Proofs.KeyValue.Serving
import RequestHub.Proofs.Uuid.Text

/-!
# Runs of a key-value target

Requests come to a target one after another, in a session in which other things happen between them.
Nothing but the target changes its documents, so that what it answers over a whole run is what a finite
map answers that is empty at first: `Simulated` goes through the run with the map.

What follows from this for the answers is said without the map.  An answer that does not say that
something was changed leaves all documents as they were, and an object cannot be added under a key twice
unless it is removed from it in between.
-/

namespace RequestHub.KeyValue

/-- What happens in a session, apart from a target whose documents it leaves alone. -/
structure Interlude (serial : Nat) where
  change : Session → Session
  store_eq : ∀ session, (change session).store serial = session.store serial
  made_le : ∀ session, session.made ≤ (change session).made

/-- A request that comes to a target, after what happens before. -/
structure Visit (serial : Nat) where
  interlude : Interlude serial
  context : Context
  scope : Scope
  request : Request

/-- A request to a target, and what came of it. -/
structure Exchange where
  request : Request
  before : Session
  answer : Outcome (Option Response)
  after : Session

namespace Exchange

/-- The identifier that is new at the time of the request. -/
def fresh (exchange : Exchange) : Uuid :=
  exchange.before.freshId.1

/-- The answer says that an object was added, and the key is that of the object. -/
def Adds (exchange : Exchange) (idField key : String) : Prop :=
  status? exchange.answer = some .created ∧
    ∃ members document, HasObject exchange.request members ∧
      Entry idField exchange.fresh members key document

/-- The answer says that an object was removed, and the request names the key. -/
def Removes (exchange : Exchange) (key : String) : Prop :=
  status? exchange.answer = some .noContent ∧ RequestKey exchange.request key

end Exchange

/-- What comes of a request to a target. -/
def exchange (idField : String) {serial : Nat} (session : Session) (visit : Visit serial) :
    Exchange :=
  let before := visit.interlude.change session
  let ended := (target idField serial).run visit.context visit.scope visit.request before
  ⟨visit.request, before, ended.1, ended.2.2⟩

/-- What comes of requests to a target, one after another. -/
def exchanges (idField : String) {serial : Nat} : Session → List (Visit serial) → List Exchange
  | _, [] => []
  | session, visit :: visits =>
      let first := exchange idField session visit
      first :: exchanges idField first.after visits

/-- The answers of a run are those of a finite map, and the documents are its objects all along. -/
inductive Simulated (idField : String) (serial : Nat) : Contents → List Exchange → Prop where
  | finished {contents : Contents} : Simulated idField serial contents []
  | served {contents next : Contents} {exchange : Exchange} {later : List Exchange}
      (before : (exchange.before.store serial).Holds contents)
      (served : Served idField exchange.fresh contents exchange.request exchange.answer next)
      (only : ∀ {other following},
        Served idField exchange.fresh contents exchange.request other following →
          status? exchange.answer = status? other ∧ next = following)
      (after : (exchange.after.store serial).Holds next)
      (kept : Alters exchange.request.method exchange.answer ∨
        exchange.after.store serial = exchange.before.store serial)
      (rest : Simulated idField serial next later) :
      Simulated idField serial contents (exchange :: later)

/-! ## One exchange -/

section

variable {serial : Nat} {idField : String}

@[simp]
theorem store_withStore
    (session : Session)
    (serial : Nat)
    (store : Store) :
    (session.withStore serial store).store serial = store := by
  simp [Session.store, Session.withStore]

/-- The step that a target takes with the documents of a session. -/
def stepOf (idField : String) (serial : Nat) (session : Session) (request : Request) :
    Except Failure Response × Store :=
  serve idField session.freshId.1 (session.millis / 1000) (session.store serial) request

/-- How a target ends once the step is taken: it keeps the documents, and then it answers. -/
theorem conclude_run
    (step : Except Failure Response × Store)
    (scope : Scope)
    (request : Request)
    (session : Session) :
    (match step with
      | (answer, store) => do
          Work.update fun session => session.withStore serial store
          match answer with
          | .ok response => return some response
          | .error failure => Work.fail failure : Work Request (Option Response))
        scope request session =
      (answerOf step.1, request, session.withStore serial step.2) := by
  rcases step with ⟨response | failure, store⟩
  · rfl
  · rfl

theorem target_run
    (idField : String)
    (serial : Nat)
    (context : Context)
    (scope : Scope)
    (request : Request)
    (session : Session) :
    (target idField serial).run context scope request session =
      (answerOf (stepOf idField serial session request).1, request,
        session.freshId.2.withStore serial (stepOf idField serial session request).2) :=
  conclude_run (stepOf idField serial session request) scope request session.freshId.2

/-- What comes of a request in a session that holds the objects of a map. -/
theorem exchange_served
    (idField : String)
    {session : Session}
    {contents : Contents}
    (holds : (session.store serial).Holds contents)
    (visit : Visit serial) :
    ∃ next,
      ((exchange idField session visit).before.store serial).Holds contents ∧
        Served idField (exchange idField session visit).fresh contents
          (exchange idField session visit).request (exchange idField session visit).answer next ∧
        ((exchange idField session visit).after.store serial).Holds next ∧
        (Alters (exchange idField session visit).request.method
            (exchange idField session visit).answer ∨
          (exchange idField session visit).after.store serial =
            (exchange idField session visit).before.store serial) := by
  have before : ((visit.interlude.change session).store serial).Holds contents := by
    rw [visit.interlude.store_eq]
    exact holds
  obtain ⟨next, served, held, kept⟩ :=
    serve_serves idField (visit.interlude.change session).freshId.1
      ((visit.interlude.change session).millis / 1000) visit.request before
  refine ⟨next, before, ?_⟩
  simp only [exchange, Exchange.fresh, target_run, store_withStore]
  exact ⟨served, held, kept⟩

theorem made_lt_exchange
    (idField : String)
    (session : Session)
    (visit : Visit serial) :
    session.made ≤ (exchange idField session visit).before.made ∧
      (exchange idField session visit).before.made < (exchange idField session visit).after.made := by
  simp only [exchange, target_run]
  exact ⟨visit.interlude.made_le session, Nat.lt_succ_self _⟩

end

/-! ## Runs -/

section

variable {serial : Nat} {idField : String}

theorem simulated
    (idField : String)
    (visits : List (Visit serial))
    {session : Session}
    {contents : Contents}
    (holds : (session.store serial).Holds contents) :
    Simulated idField serial contents (exchanges idField session visits) := by
  induction visits generalizing session contents with
  | nil => exact .finished
  | cons visit visits ih =>
      obtain ⟨next, before, served, after, kept⟩ := exchange_served idField holds visit
      exact .served before served served.unique after kept (ih after)

/-- Identifiers that are made in a run have numbers that increase. -/
theorem made_le_exchanges
    (idField : String)
    (visits : List (Visit serial))
    (session : Session) :
    ∀ exchange ∈ exchanges idField session visits, session.made ≤ exchange.before.made := by
  induction visits generalizing session with
  | nil =>
      intro exchange member
      exact absurd member List.not_mem_nil
  | cons visit visits ih =>
      obtain ⟨first, behind⟩ := made_lt_exchange idField session visit
      intro exchange member
      rcases List.mem_cons.mp member with rfl | later
      · exact first
      · exact Nat.le_trans (Nat.le_trans first (Nat.le_of_lt behind)) (ih _ exchange later)

theorem pairwise_made
    (idField : String)
    (visits : List (Visit serial))
    (session : Session) :
    (exchanges idField session visits).Pairwise fun left right =>
      left.before.made < right.before.made := by
  induction visits generalizing session with
  | nil => exact List.Pairwise.nil
  | cons visit visits ih =>
      refine List.pairwise_cons.mpr ⟨?_, ih _⟩
      intro later member
      have behind := (made_lt_exchange idField session visit).2
      exact Nat.lt_of_lt_of_le behind (made_le_exchanges idField visits _ later member)

/-! ## Adding and removing -/

variable {fresh : Uuid} {contents next : Contents} {request : Request}
  {answer : Outcome (Option Response)} {key : String}

/-- That an object was added is said only of one that was not there. -/
theorem Served.of_created
    (served : Served idField fresh contents request answer next)
    (status : status? answer = some .created) :
    ∃ members document key, HasObject request members ∧
      Entry idField fresh members key document ∧ key ∉ contents ∧
      next = contents.insert key document := by
  have differs {other : Status} (told : status? answer = some other)
      (apart : other ≠ Status.created) : False :=
    apart (Option.some.inj (told.symm.trans status))
  cases served with
  | post method creation =>
      cases creation with
      | created object entry absent shows => exact ⟨_, _, _, object, entry, absent, rfl⟩
      | conflict _ _ _ refuses => exact (differs refuses.status?_eq (by decide)).elim
      | malformed _ refuses => exact (differs refuses.status?_eq (by decide)).elim
  | get method reading =>
      cases reading with
      | shown _ _ shows => exact (differs shows.status?_eq (by decide)).elim
      | missing _ _ refuses => exact (differs refuses.status?_eq (by decide)).elim
      | listed _ _ _ shows => exact (differs shows.status?_eq (by decide)).elim
  | put method replacement =>
      cases replacement with
      | replaced _ _ _ shows => exact (differs shows.status?_eq (by decide)).elim
      | missing _ _ _ refuses => exact (differs refuses.status?_eq (by decide)).elim
      | keyless _ _ refuses => exact (differs refuses.status?_eq (by decide)).elim
      | malformed _ refuses => exact (differs refuses.status?_eq (by decide)).elim
  | delete method removal =>
      cases removal with
      | removed => cases status
      | missing _ _ refuses => exact (differs refuses.status?_eq (by decide)).elim
      | keyless _ refuses => exact (differs refuses.status?_eq (by decide)).elim
  | unsupported => cases status

/-- An object stays under its key unless it is said to be removed. -/
theorem Served.mem_next
    (served : Served idField fresh contents request answer next)
    (present : key ∈ contents)
    (lasts : ¬ (status? answer = some .noContent ∧ RequestKey request key)) :
    key ∈ next := by
  cases served with
  | post method creation =>
      cases creation with
      | created => exact Finmap.mem_insert.mpr (Or.inr present)
      | conflict | malformed => exact present
  | get method reading =>
      cases reading with
      | shown | missing | listed => exact present
  | put method replacement =>
      cases replacement with
      | replaced => exact Finmap.mem_insert.mpr (Or.inr present)
      | missing | keyless | malformed => exact present
  | delete method removal =>
      cases removal with
      | removed named =>
          refine Finmap.mem_erase.mpr ⟨?_, present⟩
          rintro rfl
          exact lasts ⟨rfl, named⟩
      | missing | keyless => exact present
  | unsupported => exact present

theorem Simulated.drop
    {before later : List Exchange}
    (simulated : Simulated idField serial contents (before ++ later)) :
    ∃ contents, Simulated idField serial contents later := by
  induction before generalizing contents with
  | nil => exact ⟨contents, simulated⟩
  | cons exchange before ih =>
      cases simulated with
      | served _ _ _ _ _ rest => exact ih rest

/-- An object that is there is removed before another one is added under its key. -/
theorem Simulated.removed_before
    {between after : List Exchange}
    {second : Exchange}
    (simulated : Simulated idField serial contents (between ++ second :: after))
    (present : key ∈ contents)
    (adds : second.Adds idField key) :
    ∃ removal ∈ between, removal.Removes key := by
  induction between generalizing contents with
  | nil =>
      cases simulated with
      | served _ served =>
          obtain ⟨status, members, document, object, entry⟩ := adds
          obtain ⟨others, _, _, object', entry', absent, -⟩ := served.of_created status
          cases object.unique object'
          obtain ⟨rfl, -⟩ := entry.unique entry'
          exact absurd present absent
  | cons exchange between ih =>
      cases simulated with
      | served _ served _ _ _ rest =>
          by_cases removes : exchange.Removes key
          · exact ⟨exchange, List.mem_cons_self, removes⟩
          · obtain ⟨removal, member, removed⟩ := ih rest (served.mem_next present removes)
            exact ⟨removal, List.mem_cons_of_mem _ member, removed⟩

theorem Simulated.removed_between
    {before between after : List Exchange}
    {first second : Exchange}
    (simulated : Simulated idField serial contents
      (before ++ first :: (between ++ second :: after)))
    (adds : first.Adds idField key)
    (again : second.Adds idField key) :
    ∃ removal ∈ between, removal.Removes key := by
  obtain ⟨reached, simulated⟩ := simulated.drop
  cases simulated with
  | served _ served _ _ _ rest =>
      obtain ⟨status, members, document, object, entry⟩ := adds
      obtain ⟨others, _, _, object', entry', absent, rfl⟩ := served.of_created status
      cases object.unique object'
      obtain ⟨rfl, -⟩ := entry.unique entry'
      exact rest.removed_before (Finmap.mem_insert.mpr (Or.inl rfl)) again

/-- What is true of the exchanges of a run that begins without documents. -/
structure Sequential (idField : String) (serial : Nat) (exchanges : List Exchange) : Prop where
  simulated : Simulated idField serial ∅ exchanges
  removed_between : ∀ {before between after : List Exchange} {first second : Exchange} {key : String},
    exchanges = before ++ first :: (between ++ second :: after) →
    first.Adds idField key → second.Adds idField key → ∃ removal ∈ between, removal.Removes key
  /-- Keys that are made for objects are new: as long as there is room for their numbers, they differ. -/
  fresh_ne : exchanges.Pairwise fun left right =>
    right.before.made < twoTo 74 → left.fresh.text ≠ right.fresh.text

/-- Whatever comes to a target, and whatever happens in between, it serves as a finite map does. -/
theorem sequential
    (idField : String)
    (serial : Nat)
    (session : Session)
    (visits : List (Visit serial)) :
    Sequential idField serial (exchanges idField (session.withStore serial []) visits) := by
  have empty : ((session.withStore serial []).store serial).Holds ∅ := by
    rw [store_withStore]
    exact .empty
  have simulated := simulated idField visits empty
  constructor
  · exact simulated
  · intro before between after first second key split adds again
    rw [split] at simulated
    exact simulated.removed_between adds again
  · refine (pairwise_made idField visits _).imp ?_
    intro left right behind room
    exact Uuid.text_fresh_ne behind room

end

end RequestHub.KeyValue
