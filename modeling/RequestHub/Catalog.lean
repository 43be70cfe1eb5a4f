import RequestHub.Configuration.Failure
import RequestHub.Definition.Schemas

/-!
# The catalog of schemas

The schemas that a home lists are kept with their contents, by name and version.
-/

namespace RequestHub

/-- A schema with its content. -/
structure SchemaDocument where
  name : String
  version : String
  compatibility : Option String
  content : Bytes
deriving DecidableEq, Inhabited, Repr

/-- Schemas by name and version. -/
structure Catalog where
  documents : Names SchemaDocument
deriving DecidableEq, Inhabited, Repr

namespace Catalog

/-- A catalog without schemas. -/
def empty : Catalog := ⟨[]⟩

/-- The key of a name and a version. -/
def key (name version : String) : String :=
  name ++ ":" ++ version

/-- The schema for a name and a version. -/
def get? (catalog : Catalog) (name version : String) : Option SchemaDocument :=
  catalog.documents.find? (key name version)

/-- Whether there is a schema for a name and a version. -/
def contains (catalog : Catalog) (name version : String) : Bool :=
  (catalog.get? name version).isSome

/-- Puts a schema in the place of the one that the catalog has under the key, and takes the latter out. -/
def insert (catalog : Catalog) (document : SchemaDocument) : Option SchemaDocument × Catalog :=
  let key := key document.name document.version
  (catalog.documents.find? key, ⟨Names.insert key document catalog.documents⟩)

/-- The keys, in order. -/
def keys (catalog : Catalog) : List String :=
  catalog.documents.keys

/-- The number of schemas. -/
def size (catalog : Catalog) : Nat :=
  catalog.documents.length

/--
Adds the schemas of a list, one after another, from files in a directory.  The first file that cannot
be read ends the loading, and the schemas added before it stay.
-/
def loadFrom (tree : FileTree) (directory : String) (compatibility : Option String) :
    Catalog → List Definition.Schema → Except ConfigFailure Unit × Catalog
  | catalog, [] => (.ok (), catalog)
  | catalog, schema :: schemas =>
      let path := Path.join directory schema.file
      match tree.read path with
      | .error fault => (.error (.unreadable path fault), catalog)
      | .ok content =>
          loadFrom tree directory compatibility
            (catalog.insert ⟨schema.name, schema.version, compatibility, content⟩).2 schemas

/-- Adds the schemas of a list from files in a directory. -/
def load (catalog : Catalog) (tree : FileTree) (directory : String) (list : Definition.Schemas) :
    Except ConfigFailure Unit × Catalog :=
  loadFrom tree directory list.compatibility catalog list.schemas

end Catalog

end RequestHub
