import RequestHub.Decoder

/-!
# The documents of aggregates

An aggregate describes a service, or a part of one: who may reach it, how long it may take, and how it
handles requests.  A handler names its methods, the steps on both ways, and the target; steps and
targets name the type of their plugin and give its configuration.
-/

namespace RequestHub.Definition

/-- The target of a handler. -/
structure Target where
  name : String
  type : String
  config : Json
deriving DecidableEq, Inhabited, Repr

namespace Target

/-- The fields of a target. -/
def shape : Decoder.RecordShape Target where
  name := "TargetSpec"
  closed := false
  blank := ⟨"", "", .null⟩
  fields :=
    [.defaulted "name" .string fun name target => { target with name },
      .required "type" .string fun type target => { target with type },
      .defaulted "config" .any fun config target => { target with config }]

/-- Reads a target. -/
def decoder : Decoder Target :=
  .record shape

/-- The target as a JSON object. -/
def toJson (target : Target) : Json :=
  Json.ofMembers
    [("name", .string target.name), ("type", .string target.type), ("config", target.config)]

end Target

/-- A step of a handler. -/
structure Step where
  name : String
  type : String
  description : Option String
  precedence : Int
  executionType : Option String
  mustFinish : Bool
  onError : Option String
  enabled : Bool
  config : Json
deriving DecidableEq, Repr

namespace Step

/-- A step of which nothing is said. -/
def blank : Step :=
  ⟨"", "", none, 0, none, false, none, true, .null⟩

instance : Inhabited Step := ⟨blank⟩

/-- The fields of a step. -/
def shape : Decoder.RecordShape Step where
  name := "StepSpec"
  closed := false
  blank := blank
  fields :=
    [.required "name" .string fun name step => { step with name },
      .required "type" .string fun type step => { step with type },
      .defaulted "description" (.optional .string) fun description step =>
        { step with description },
      .defaulted "precedence" .integer32 fun precedence step => { step with precedence },
      .defaulted "executionType" (.optional .string) fun executionType step =>
        { step with executionType },
      .defaulted "mustFinish" .bool fun mustFinish step => { step with mustFinish },
      .defaulted "onError" (.optional .string) fun onError step => { step with onError },
      .defaulted "enabled" .bool fun enabled step => { step with enabled },
      .defaulted "config" .any fun config step => { step with config }]

/-- Reads a step. -/
def decoder : Decoder Step :=
  .record shape

/-- The step as a JSON object. -/
def toJson (step : Step) : Json :=
  Json.ofMembers
    [("name", .string step.name), ("type", .string step.type),
      ("description", .ofString? step.description), ("precedence", .ofInt step.precedence),
      ("executionType", .ofString? step.executionType), ("mustFinish", .bool step.mustFinish),
      ("onError", .ofString? step.onError), ("enabled", .bool step.enabled),
      ("config", step.config)]

end Step

/-- How requests of some methods are handled. -/
structure Handler where
  methods : List String
  inbound : List Step
  outbound : List Step
  target : Option Target
deriving DecidableEq, Inhabited, Repr

namespace Handler

/-- The fields of a handler. -/
def shape : Decoder.RecordShape Handler where
  name := "HandlerSpec"
  closed := false
  blank := default
  fields :=
    [.defaulted "methods" (.sequence .string) fun methods handler => { handler with methods },
      .defaulted "inbound" (.sequence Step.decoder) fun inbound handler =>
        { handler with inbound },
      .defaulted "outbound" (.sequence Step.decoder) fun outbound handler =>
        { handler with outbound },
      .defaulted "target" (.optional Target.decoder) fun target handler =>
        { handler with target }]

/-- Reads a handler. -/
def decoder : Decoder Handler :=
  .record shape

/-- The handler as a JSON object. -/
def toJson (handler : Handler) : Json :=
  Json.ofMembers
    [("methods", .ofStrings handler.methods), ("inbound", .array (handler.inbound.map Step.toJson)),
      ("outbound", .array (handler.outbound.map Step.toJson)),
      ("target", (handler.target.map Target.toJson).getD .null)]

end Handler

/-- What the document of an aggregate says. -/
structure Aggregate where
  name : String
  api : String
  isPublic : Bool
  schemaName : Option String
  schemaVersion : Option String
  /-- The time that the service may take, in milliseconds; zero does not count. -/
  timeout : Option Nat
  refs : List String
  handlers : List Handler
deriving DecidableEq, Inhabited, Repr

namespace Aggregate

/-- The fields of an aggregate. -/
def shape : Decoder.RecordShape Aggregate where
  name := "AggregateDefinition"
  closed := false
  blank := default
  fields :=
    [.required "name" .string fun name aggregate => { aggregate with name },
      .required "apiName" .string fun api aggregate => { aggregate with api },
      .defaulted "isPublic" .bool fun isPublic aggregate => { aggregate with isPublic },
      .defaulted "schemaName" (.optional .string) fun schemaName aggregate =>
        { aggregate with schemaName },
      .defaulted "schemaVersion" (.optional .string) fun schemaVersion aggregate =>
        { aggregate with schemaVersion },
      .defaulted "timeoutMs" (.optional .natural64) fun timeout aggregate =>
        { aggregate with timeout },
      .defaulted "refs" (.sequence .string) fun refs aggregate => { aggregate with refs },
      .defaulted "handlers" (.sequence Handler.decoder) fun handlers aggregate =>
        { aggregate with handlers }]

/-- What the document of an aggregate says, as a JSON object. -/
def toJson (aggregate : Aggregate) : Json :=
  Json.ofMembers
    [("name", .string aggregate.name), ("apiName", .string aggregate.api),
      ("isPublic", .bool aggregate.isPublic), ("schemaName", .ofString? aggregate.schemaName),
      ("schemaVersion", .ofString? aggregate.schemaVersion),
      ("timeoutMs", (aggregate.timeout.map Json.ofNat).getD .null),
      ("refs", .ofStrings aggregate.refs),
      ("handlers", .array (aggregate.handlers.map Handler.toJson))]

end Aggregate

/-- The document of an aggregate. -/
structure AggregateDocument where
  apiVersion : String
  specType : String
  space : Option String
  spec : Aggregate
deriving DecidableEq, Inhabited, Repr

namespace AggregateDocument

/-- The fields of the document. -/
def shape : Decoder.RecordShape AggregateDocument where
  name := "AggregateSpec"
  closed := false
  blank := default
  fields :=
    [.defaulted "apiVersion" .string fun apiVersion document => { document with apiVersion },
      .defaulted "specType" .string fun specType document => { document with specType },
      .defaulted "namespace" (.optional .string) fun space document => { document with space },
      .required "spec" (.record Aggregate.shape) fun spec document => { document with spec }]

/-- Reads the document. -/
def decoder : Decoder AggregateDocument :=
  .record shape

/-- The document as a JSON object. -/
def toJson (document : AggregateDocument) : Json :=
  Json.ofMembers
    [("apiVersion", .string document.apiVersion), ("specType", .string document.specType),
      ("namespace", .ofString? document.space), ("spec", document.spec.toJson)]

end AggregateDocument

end RequestHub.Definition
