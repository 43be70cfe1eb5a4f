import RequestHub.Configuration.Failure
import RequestHub.Definition.Aggregate
import RequestHub.Definition.Hub
import RequestHub.Definition.Schemas

/-!
# Homes

The home of an application is a directory with the document of its hub, a directory of aggregates and
a directory of lists of schemas.  Documents are YAML or JSON by their extension; those of a directory
are taken in the order of their names, whatever the order in which the directory lists them.
-/

namespace RequestHub

namespace Document

/-- Whether a path names a JSON document. -/
def isJson (path : String) : Bool :=
  Path.smallExtension? path = some "json"

/-- The document at the end of a path. -/
def read {α : Type} (decoder : Decoder α) (tree : FileTree) (path : String) :
    Except ConfigFailure α :=
  match tree.readText path with
  | .error fault => .error (.unreadable path fault)
  | .ok text =>
      if isJson path then
        (decoder.fromText (Bytes.ofString text)).mapError fun fault => .document path (some fault)
      else
        match decoder.fromYaml? text with
        | some document => .ok document
        | none => .error (.document path none)

end Document

/-- The documents of a home, with their paths. -/
structure Home where
  path : String
  hub : Definition.HubDocument
  aggregates : List (String × Definition.AggregateDocument)
  schemas : List (String × Definition.SchemasDocument)
deriving DecidableEq, Inhabited, Repr

namespace Home

/-- The names that the document of a hub may have, the preferred ones first. -/
def hubFiles : List String :=
  ["hub.yaml", "hub.yml", "hub.json"]

/-- Whether a name in a directory is that of a document; `json` says whether JSON is taken. -/
def isDocument (json : Bool) (name : String) : Bool :=
  match Path.smallExtension? name with
  | some "yaml" | some "yml" => true
  | some "json" => json
  | _ => false

/-- The paths of the documents in a directory, in order. -/
def documentPaths (json : Bool) (tree : FileTree) (directory : String) : List String :=
  let names := (tree.names directory).filter fun name =>
    isDocument json name && tree.isFile (Path.join directory name)
  (names.mergeSort fun left right => left ≤ right).map (Path.join directory)

/-- The documents in a directory, in order; a directory that is missing has none. -/
def readDirectory {α : Type} (decoder : Decoder α) (json : Bool) (tree : FileTree)
    (directory : String) : Except ConfigFailure (List (String × α)) :=
  if tree.isDirectory directory then
    (documentPaths json tree directory).mapM fun path => do
      return (path, ← Document.read decoder tree path)
  else .ok []

/-- The documents of a home. -/
def read (tree : FileTree) (path : String) : Except ConfigFailure Home := do
  let candidates := hubFiles.map (Path.join path)
  match candidates.find? tree.isFile with
  | none => .error (.fileNotFound (Path.join path "hub.yaml"))
  | some hubPath => do
      let hub ← Document.read Definition.HubDocument.decoder tree hubPath
      let aggregates ←
        readDirectory Definition.AggregateDocument.decoder true tree (Path.join path "aggregates")
      let schemas ←
        readDirectory Definition.SchemasDocument.decoder false tree (Path.join path "schemas")
      return { path, hub, aggregates, schemas }

end Home

end RequestHub
