import RequestHub.Calendar
import RequestHub.KeyValue.Store
import RequestHub.Plugin

/-!
# The key-value target

A key-value target keeps JSON objects by their keys.  `serve` is one step of it: it takes the documents
and a request, and gives the response and the documents afterwards.  A key comes from the parameter
`id`, from the third segment of the path, or from the field of the document that is configured as its
key; which of them count depends on the method.
-/

namespace RequestHub.KeyValue

/-- The configuration of a key-value target. -/
structure Config where
  /-- The field of a document that holds its key. -/
  idField : String
deriving DecidableEq, Inhabited, Repr

namespace Config

/-- The fields of a configuration. -/
def shape : Decoder.RecordShape Config where
  name := "KeyValueConfig"
  closed := true
  blank := ⟨"id"⟩
  fields := [.defaulted "idField" .string fun idField _ => ⟨idField⟩]

/-- Reads a configuration; the name of the field must not be empty. -/
def read (plugin : String) (config : Json) : Except Failure Config := do
  let config ← Plugin.configuration plugin (.record shape) config
  if config.idField.isEmpty then
    .error (.invalidPluginConfig plugin "idField must not be empty")
  else return config

end Config

/-! ## Keys -/

/-- The key that a request names by its parameter or its path. -/
def requestKey? (request : Request) : Option String :=
  match (request.param? "id").filter (!·.isEmpty) with
  | some id => some id
  | none =>
      match (Route.segments request.route.path.toList)[2]? with
      | some (char :: chars) => some (String.ofList (char :: chars))
      | _ => none

/-- The key that a value stands for: a text that is not empty, or a number as it is written. -/
def keyOf? : Json → Option String
  | .string text => if text.isEmpty then none else some text
  | .number number => some number.render
  | _ => none

/-- The key that a document holds. -/
def documentKey? (idField : String) (members : Names Json) : Option String :=
  (members.find? idField).bind keyOf?

/-! ## Responses -/

/-- A response that tells what is wrong. -/
def complaint (status : Status) (message : String) : Response :=
  Response.ofJson status (Json.ofMembers [("error", .string message)])

/-- The response that there is no document under a key. -/
def notFound (key : String) : Response :=
  complaint .notFound ("document " ++ key ++ " not found")

/-- The response that no key was named. -/
def keyMissing : Response :=
  complaint .badRequest "no document key in request"

/-- A document as a response. -/
def shown (status : Status) (document : Document) : Response :=
  Response.ofJson status (.object document.members)

/-- A document as a response that tells when the document was last changed. -/
def dated (document : Document) : Response :=
  (shown .ok document).withHeader "last-modified"
    (Bytes.ofString (Calendar.dateText document.updated))

/-- The members of the document that a request holds, or the response that it holds none. -/
def readDocument (request : Request) : Except Response (Names Json) :=
  match request.json with
  | .ok (.object members) => .ok members
  | .ok _ => .error (complaint .badRequest "document must be a JSON object")
  | .error fault =>
      .error (complaint .badRequest ("invalid JSON document: " ++ fault.message))

/-! ## Steps -/

/-- Adds the document of a request, under its own key or a new one. -/
def create (idField : String) (fresh : Uuid) (now : Nat) (store : Store) (request : Request) :
    Response × Store :=
  match readDocument request with
  | .error response => (response, store)
  | .ok members =>
      let (key, members) :=
        match documentKey? idField members with
        | some key => (key, members)
        | none => (fresh.text, Names.insert idField (.string fresh.text) members)
      match store.find? key with
      | some _ => (complaint .conflict ("document " ++ key ++ " already exists"), store)
      | none =>
          let document : Document := ⟨members, now, now⟩
          (shown .created document, Names.insert key document store)

/--
Shows one document or, if no key is named, all of them in the order of keys.  The documents of a hash map
would have to be sorted first; a store is the form of such a map in which they are.
-/
def readAt (store : Store) (request : Request) : Response :=
  match requestKey? request with
  | none => Response.ofJson .ok (.array (store.values.map fun document => .object document.members))
  | some key =>
      match store.find? key with
      | some document => dated document
      | none => notFound key

/-- Puts the document of a request in the place of one that is there. -/
def replace (idField : String) (now : Nat) (store : Store) (request : Request) :
    Response × Store :=
  match readDocument request with
  | .error response => (response, store)
  | .ok members =>
      match (requestKey? request).orElse fun _ => documentKey? idField members with
      | none => (keyMissing, store)
      | some key =>
          match store.find? key with
          | none => (notFound key, store)
          | some old =>
              let document : Document :=
                ⟨Names.insert idField (.string key) members, old.created, now⟩
              (dated document, Names.insert key document store)

/-- Removes the document under the key that a request names. -/
def delete (store : Store) (request : Request) : Response × Store :=
  match requestKey? request with
  | none => (keyMissing, store)
  | some key =>
      match store.find? key with
      | some _ => (Response.ofStatus .noContent, Names.erase key store)
      | none => (notFound key, store)

/-- One step of a key-value target, at a time in seconds and with an identifier that is new. -/
def serve (idField : String) (fresh : Uuid) (now : Nat) (store : Store) (request : Request) :
    Except Failure Response × Store :=
  match request.method with
  | .post =>
      let (response, store) := create idField fresh now store request
      (.ok response, store)
  | .get => (.ok (readAt store request), store)
  | .put =>
      let (response, store) := replace idField now store request
      (.ok response, store)
  | .delete =>
      let (response, store) := delete store request
      (.ok response, store)
  | method => (.error (.unsupportedMethod method.name), store)

/-- The name of the target's type. -/
def typeName : String := "key_value"

/-- The target whose documents the session keeps under a number. -/
def target (idField : String) (serial : Nat) : Target where
  run _ := do
    let request ← Work.request
    let fresh ← Work.take Session.freshId
    let session ← Work.session
    let (answer, store) :=
      serve idField fresh (session.millis / 1000) (session.store serial) request
    Work.update fun session => session.withStore serial store
    match answer with
    | .ok response => return some response
    | .error failure => Work.fail failure

end RequestHub.KeyValue
