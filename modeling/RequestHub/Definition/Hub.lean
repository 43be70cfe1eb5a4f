import RequestHub.Decoder

/-!
# The document of a hub

A home has one document that names the application and the ports of its listeners, and that lists the
interfaces of its services.
-/

namespace RequestHub.Definition

/-- An interface, with the documents of its aggregates by name. -/
structure Interface where
  name : String
  aggregates : Names String
deriving DecidableEq, Inhabited, Repr

namespace Interface

/-- The fields of an interface. -/
def shape : Decoder.RecordShape Interface where
  name := "ApiSpec"
  closed := false
  blank := default
  fields :=
    [.required "name" .string fun name api => { api with name },
      .defaulted "aggregates" (.mapping .string) fun aggregates api => { api with aggregates }]

/-- The interface as a JSON object. -/
def toJson (api : Interface) : Json :=
  Json.ofMembers
    [("name", .string api.name),
      ("aggregates", .object (api.aggregates.map fun (name, path) => (name, .string path)))]

end Interface

/-- What the document of a hub says. -/
structure Hub where
  application : String
  version : Option String
  publicPort : Option Nat
  privatePort : Option Nat
  apis : List Interface
deriving DecidableEq, Inhabited, Repr

namespace Hub

/-- The fields of a hub. -/
def shape : Decoder.RecordShape Hub where
  name := "HubDefinition"
  closed := false
  blank := default
  fields :=
    [.required "applicationName" .string fun application hub => { hub with application },
      .defaulted "applicationVersion" (.optional .string) fun version hub => { hub with version },
      .defaulted "publicPort" (.optional .natural16) fun publicPort hub => { hub with publicPort },
      .defaulted "privatePort" (.optional .natural16) fun privatePort hub =>
        { hub with privatePort },
      .defaulted "apis" (.sequence (.record Interface.shape)) fun apis hub => { hub with apis }]

/-- A number, or `null`. -/
def portJson (port : Option Nat) : Json :=
  (port.map Json.ofNat).getD .null

/-- What the document of a hub says, as a JSON object. -/
def toJson (hub : Hub) : Json :=
  Json.ofMembers
    [("applicationName", .string hub.application), ("applicationVersion", .ofString? hub.version),
      ("publicPort", portJson hub.publicPort), ("privatePort", portJson hub.privatePort),
      ("apis", .array (hub.apis.map Interface.toJson))]

end Hub

/-- The document of a hub. -/
structure HubDocument where
  apiVersion : String
  specType : String
  spec : Hub
deriving DecidableEq, Inhabited, Repr

namespace HubDocument

/-- The fields of the document. -/
def shape : Decoder.RecordShape HubDocument where
  name := "HubSpec"
  closed := false
  blank := default
  fields :=
    [.defaulted "apiVersion" .string fun apiVersion document => { document with apiVersion },
      .defaulted "specType" .string fun specType document => { document with specType },
      .required "spec" (.record Hub.shape) fun spec document => { document with spec }]

/-- Reads the document. -/
def decoder : Decoder HubDocument :=
  .record shape

/-- The document as a JSON object. -/
def toJson (document : HubDocument) : Json :=
  Json.ofMembers
    [("apiVersion", .string document.apiVersion), ("specType", .string document.specType),
      ("spec", document.spec.toJson)]

end HubDocument

end RequestHub.Definition
