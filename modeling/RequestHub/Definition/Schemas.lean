import RequestHub.Decoder

/-!
# Lists of schemas

A list names schemas and their versions, and the files that hold them.
-/

namespace RequestHub.Definition

/-- A schema of a list. -/
structure Schema where
  name : String
  version : String
  file : String
deriving DecidableEq, Inhabited, Repr

namespace Schema

/-- The fields of a schema. -/
def shape : Decoder.RecordShape Schema where
  name := "SchemaEntry"
  closed := false
  blank := default
  fields :=
    [.required "name" .string fun name schema => { schema with name },
      .required "version" .string fun version schema => { schema with version },
      (Decoder.Field.required "filename" .string fun file schema =>
        { schema with file }).orCalled "file"]

/-- The schema as a JSON object. -/
def toJson (schema : Schema) : Json :=
  Json.ofMembers
    [("name", .string schema.name), ("version", .string schema.version),
      ("filename", .string schema.file)]

end Schema

/-- What a list of schemas says. -/
structure Schemas where
  compatibility : Option String
  schemas : List Schema
deriving DecidableEq, Inhabited, Repr

namespace Schemas

/-- The fields of a list. -/
def shape : Decoder.RecordShape Schemas where
  name := "SchemasDefinition"
  closed := false
  blank := default
  fields :=
    [.defaulted "compatibility" (.optional .string) fun compatibility list =>
        { list with compatibility },
      .defaulted "schemas" (.sequence (.record Schema.shape)) fun schemas list =>
        { list with schemas }]

/-- What a list of schemas says, as a JSON object. -/
def toJson (list : Schemas) : Json :=
  Json.ofMembers
    [("compatibility", .ofString? list.compatibility),
      ("schemas", .array (list.schemas.map Schema.toJson))]

end Schemas

/-- A list of schemas as a document. -/
structure SchemasDocument where
  apiVersion : String
  specType : String
  spec : Schemas
deriving DecidableEq, Inhabited, Repr

namespace SchemasDocument

/-- The fields of the document. -/
def shape : Decoder.RecordShape SchemasDocument where
  name := "SchemasSpec"
  closed := false
  blank := default
  fields :=
    [.defaulted "apiVersion" .string fun apiVersion document => { document with apiVersion },
      .defaulted "specType" .string fun specType document => { document with specType },
      .required "spec" (.record Schemas.shape) fun spec document => { document with spec }]

/-- Reads the document. -/
def decoder : Decoder SchemasDocument :=
  .record shape

/-- The document as a JSON object. -/
def toJson (document : SchemasDocument) : Json :=
  Json.ofMembers
    [("apiVersion", .string document.apiVersion), ("specType", .string document.specType),
      ("spec", document.spec.toJson)]

end SchemasDocument

end RequestHub.Definition
