import RequestHub.Proofs.Decoder.Sections
import RequestHub.Proofs.Settings.Naming

/-!
# What a layer of settings leaves of the layers below it

A document gives some of the settings and leaves out the others.  A layer would be put over the settings
below it if a setting that the document gives had the value of the document, and every other one the value
below.  `Layered` says this of two settings and a document.

Texts and files are put over the defaults, whatever stands below them.  Hence they are put over the settings
below exactly where those have the defaults in all that the document leaves out.
-/

namespace RequestHub

open Decoder

/-! ## The settings that a document gives -/

namespace Document

/-- The text that a document is, or no text where it says so. -/
def optionalText? : Document → Option (Option String)
  | .json .null => some none
  | document => document.text?.map some

/-- The part of a document to which places lead, each a name with a position among its siblings. -/
def at? (document : Document) (path : List (String × Nat)) : Option Document :=
  path.foldl (fun part place => part.bind (part? place.1 place.2)) (some document)

/-- The document that a text spells. -/
def ofText? (written : Settings.Notation) (content : String) : Option Document :=
  match written with
  | .json => (Json.ofBytes (Bytes.ofString content)).toOption.map .json
  | .toml => (Toml.Document.ofString? content).map .toml

end Document

namespace Setting

/-- The places of the sections in which a setting is, and its own place in the last one. -/
def path : Setting → List (String × Nat)
  | .publicAddress => [("server", 0), ("public_addr", 0)]
  | .privateAddress => [("server", 0), ("private_addr", 1)]
  | .shutdownSeconds => [("server", 0), ("shutdown_timeout_secs", 2)]
  | .bodyLimit => [("server", 0), ("max_body_bytes", 3)]
  | .requestSeconds => [("server", 0), ("request_timeout_secs", 4)]
  | .serviceName => [("telemetry", 1), ("service_name", 0)]
  | .level => [("telemetry", 1), ("logging", 1), ("level", 0)]
  | .format => [("telemetry", 1), ("logging", 1), ("format", 1)]
  | .tracingEnabled => [("telemetry", 1), ("tracing", 2), ("enabled", 0)]
  | .endpoint => [("telemetry", 1), ("tracing", 2), ("otlp_endpoint", 1)]
  | .environment => [("telemetry", 1), ("tracing", 2), ("environment", 2)]
  | .sampleRatio => [("telemetry", 1), ("tracing", 2), ("sample_ratio", 3)]
  | .metricsEnabled => [("telemetry", 1), ("metrics", 3), ("enabled", 0)]
  | .metricsAddress => [("telemetry", 1), ("metrics", 3), ("addr", 1)]
  | .name => [("application", 2), ("name", 0)]
  | .home => [("application", 2), ("home", 1)]

/-- What a document gives for a setting, if it gives it. -/
def given? (document : Document) (setting : Setting) : Option Document :=
  document.at? setting.path

/-- The value of a setting that is given. -/
def told? (part : Document) : Setting → Option SettingValue
  | .publicAddress | .serviceName | .level | .endpoint | .environment | .name | .home =>
      part.text?.map .text
  | .privateAddress | .metricsAddress => part.optionalText?.map .optional
  | .shutdownSeconds | .bodyLimit | .requestSeconds =>
      part.integer?.map fun number => .natural number.toNat
  | .format => (part.picked?.bind fun name => LogFormat.names.lookup name).map .format
  | .metricsEnabled | .tracingEnabled => part.flag?.map .flag
  | .sampleRatio => part.real?.map .share

end Setting

/-! ## What the parts of a document tell -/

namespace Decoder

theorem means_text :
    string.Means fun part text => part.text?.map SettingValue.text = some (.text text) :=
  means_string.imp fun _ _ told => congrArg (Option.map SettingValue.text) told

theorem means_flag :
    bool.Means fun part flag => part.flag?.map SettingValue.flag = some (.flag flag) :=
  means_bool.imp fun _ _ told => congrArg (Option.map SettingValue.flag) told

theorem means_share :
    real.Means fun part number => part.real?.map SettingValue.share = some (.share number) :=
  means_real.imp fun _ _ told => congrArg (Option.map SettingValue.share) told

theorem means_count (bound : Nat) (name : String) :
    (natural bound name).Means fun part number =>
      (part.integer?.map fun number => SettingValue.natural number.toNat) = some (.natural number) :=
  (means_natural bound name).imp fun _ _ told =>
    congrArg (Option.map fun number => SettingValue.natural number.toNat) told

theorem means_format :
    (choice LogFormat.names).Means fun part format =>
      (part.picked?.bind fun name => LogFormat.names.lookup name).map SettingValue.format =
        some (.format format) := by
  apply (means_choice LogFormat.names).imp
  intro part format told
  obtain ⟨name, picked, stands⟩ := told
  rw [picked, Option.bind_some, stands]
  rfl

theorem means_optionalText :
    string.optional.Means fun part text =>
      part.optionalText?.map SettingValue.optional = some (.optional text) := by
  apply means_string.optional.imp
  intro part text told
  rcases told with ⟨null, rfl⟩ | ⟨held, told, rfl⟩
  · rw [null]
    rfl
  · have given : part.optionalText? = some (some held) := by
      cases part with
      | json value =>
          cases value with
          | string text => exact congrArg (Option.map some) told
          | _ => cases told
      | toml value => exact congrArg (Option.map some) told
    rw [given]
    rfl

end Decoder

/-! ## The sections of the settings -/

theorem ServerSettings.plain : ServerSettings.shape.Plain where
  closed := rfl
  single := List.forall_iff_forall_mem.mp ⟨rfl, rfl, rfl, rfl, rfl⟩
  apart := by decide
  told := List.forall_iff_forall_mem.mp
    ⟨Field.defaulted_tells means_text, Field.defaulted_tells means_optionalText,
      Field.defaulted_tells (means_count ..), Field.defaulted_tells (means_count ..),
      Field.defaulted_tells (means_count ..)⟩

theorem LogSettings.plain : LogSettings.shape.Plain where
  closed := rfl
  single := List.forall_iff_forall_mem.mp ⟨rfl, rfl⟩
  apart := by decide
  told := List.forall_iff_forall_mem.mp
    ⟨Field.defaulted_tells means_text, Field.defaulted_tells means_format⟩

theorem TraceSettings.plain : TraceSettings.shape.Plain where
  closed := rfl
  single := List.forall_iff_forall_mem.mp ⟨rfl, rfl, rfl, rfl⟩
  apart := by decide
  told := List.forall_iff_forall_mem.mp
    ⟨Field.defaulted_tells means_flag, Field.defaulted_tells means_text,
      Field.defaulted_tells means_text, Field.defaulted_tells means_share⟩

theorem MetricsSettings.plain : MetricsSettings.shape.Plain where
  closed := rfl
  single := List.forall_iff_forall_mem.mp ⟨rfl, rfl⟩
  apart := by decide
  told := List.forall_iff_forall_mem.mp
    ⟨Field.defaulted_tells means_flag, Field.defaulted_tells means_optionalText⟩

theorem TelemetrySettings.plain : TelemetrySettings.shape.Plain where
  closed := rfl
  single := List.forall_iff_forall_mem.mp ⟨rfl, rfl, rfl, rfl⟩
  apart := by decide
  told := List.forall_iff_forall_mem.mp
    ⟨Field.defaulted_tells means_text, Field.defaulted_tells (means_record LogSettings.plain),
      Field.defaulted_tells (means_record TraceSettings.plain),
      Field.defaulted_tells (means_record MetricsSettings.plain)⟩

theorem ApplicationSettings.plain : ApplicationSettings.shape.Plain where
  closed := rfl
  single := List.forall_iff_forall_mem.mp ⟨rfl, rfl⟩
  apart := by decide
  told := List.forall_iff_forall_mem.mp
    ⟨Field.defaulted_tells means_text, Field.defaulted_tells means_text⟩

namespace Settings

theorem plain : shape.Plain where
  closed := rfl
  single := List.forall_iff_forall_mem.mp ⟨rfl, rfl, rfl⟩
  apart := by decide
  told := List.forall_iff_forall_mem.mp
    ⟨Field.defaulted_tells (means_record ServerSettings.plain),
      Field.defaulted_tells (means_record TelemetrySettings.plain),
      Field.defaulted_tells (means_record ApplicationSettings.plain)⟩

variable {document : Document} {settings : Settings}

/-! ## What a document decides of the settings -/

section Sections

variable (composed : shape.Composed document settings)

include composed

theorem composed_server :
    Decides ServerSettings.shape.Composed (document.at? [("server", 0)]) {} settings.server := by
  have whole : Decides shape.Composed (some document) {} settings := composed
  exact plain.decides_within whole (·.server) id rfl (means_record ServerSettings.plain)
    (fun _ _ => rfl) (by simp [shape])

theorem composed_telemetry :
    Decides TelemetrySettings.shape.Composed (document.at? [("telemetry", 1)]) {}
      settings.telemetry := by
  have whole : Decides shape.Composed (some document) {} settings := composed
  exact plain.decides_within whole (·.telemetry) id rfl (means_record TelemetrySettings.plain)
    (fun _ _ => rfl) (by simp [shape])

theorem composed_application :
    Decides ApplicationSettings.shape.Composed (document.at? [("application", 2)]) {}
      settings.application := by
  have whole : Decides shape.Composed (some document) {} settings := composed
  exact plain.decides_within whole (·.application) id rfl (means_record ApplicationSettings.plain)
    (fun _ _ => rfl) (by simp [shape])

theorem composed_logging :
    Decides LogSettings.shape.Composed (document.at? [("telemetry", 1), ("logging", 1)]) {}
      settings.telemetry.logging :=
  TelemetrySettings.plain.decides_within (composed_telemetry composed) (·.logging) id rfl
    (means_record LogSettings.plain) (fun _ _ => rfl) (by simp [TelemetrySettings.shape])

theorem composed_tracing :
    Decides TraceSettings.shape.Composed (document.at? [("telemetry", 1), ("tracing", 2)]) {}
      settings.telemetry.tracing :=
  TelemetrySettings.plain.decides_within (composed_telemetry composed) (·.tracing) id rfl
    (means_record TraceSettings.plain) (fun _ _ => rfl) (by simp [TelemetrySettings.shape])

theorem composed_metrics :
    Decides MetricsSettings.shape.Composed (document.at? [("telemetry", 1), ("metrics", 3)]) {}
      settings.telemetry.metrics :=
  TelemetrySettings.plain.decides_within (composed_telemetry composed) (·.metrics) id rfl
    (means_record MetricsSettings.plain) (fun _ _ => rfl) (by simp [TelemetrySettings.shape])

/-- What a document gives for a setting decides its value, and the default is its value otherwise. -/
theorem decides_of_composed (setting : Setting) :
    Decides (fun part value => setting.told? part = some value) (setting.given? document)
      (setting.read {}) (setting.read settings) := by
  cases setting with
  | publicAddress =>
      exact ServerSettings.plain.decides_within (composed_server composed)
        (fun server => SettingValue.text server.publicAddress) SettingValue.text rfl
        means_text (fun _ _ => rfl) (by simp [ServerSettings.shape])
  | privateAddress =>
      exact ServerSettings.plain.decides_within (composed_server composed)
        (fun server => SettingValue.optional server.privateAddress) SettingValue.optional rfl
        means_optionalText (fun _ _ => rfl) (by simp [ServerSettings.shape])
  | shutdownSeconds =>
      exact ServerSettings.plain.decides_within (composed_server composed)
        (fun server => SettingValue.natural server.shutdownSeconds) SettingValue.natural rfl
        (means_count ..) (fun _ _ => rfl) (by simp [ServerSettings.shape])
  | bodyLimit =>
      exact ServerSettings.plain.decides_within (composed_server composed)
        (fun server => SettingValue.natural server.bodyLimit) SettingValue.natural rfl
        (means_count ..) (fun _ _ => rfl) (by simp [ServerSettings.shape])
  | requestSeconds =>
      exact ServerSettings.plain.decides_within (composed_server composed)
        (fun server => SettingValue.natural server.requestSeconds) SettingValue.natural rfl
        (means_count ..) (fun _ _ => rfl) (by simp [ServerSettings.shape])
  | serviceName =>
      exact TelemetrySettings.plain.decides_within (composed_telemetry composed)
        (fun telemetry => SettingValue.text telemetry.serviceName) SettingValue.text rfl
        means_text (fun _ _ => rfl) (by simp [TelemetrySettings.shape])
  | level =>
      exact LogSettings.plain.decides_within (composed_logging composed)
        (fun logging => SettingValue.text logging.level) SettingValue.text rfl
        means_text (fun _ _ => rfl) (by simp [LogSettings.shape])
  | format =>
      exact LogSettings.plain.decides_within (composed_logging composed)
        (fun logging => SettingValue.format logging.format) SettingValue.format rfl
        means_format (fun _ _ => rfl) (by simp [LogSettings.shape])
  | metricsEnabled =>
      exact MetricsSettings.plain.decides_within (composed_metrics composed)
        (fun metrics => SettingValue.flag metrics.enabled) SettingValue.flag rfl
        means_flag (fun _ _ => rfl) (by simp [MetricsSettings.shape])
  | metricsAddress =>
      exact MetricsSettings.plain.decides_within (composed_metrics composed)
        (fun metrics => SettingValue.optional metrics.address) SettingValue.optional rfl
        means_optionalText (fun _ _ => rfl) (by simp [MetricsSettings.shape])
  | tracingEnabled =>
      exact TraceSettings.plain.decides_within (composed_tracing composed)
        (fun tracing => SettingValue.flag tracing.enabled) SettingValue.flag rfl
        means_flag (fun _ _ => rfl) (by simp [TraceSettings.shape])
  | endpoint =>
      exact TraceSettings.plain.decides_within (composed_tracing composed)
        (fun tracing => SettingValue.text tracing.endpoint) SettingValue.text rfl
        means_text (fun _ _ => rfl) (by simp [TraceSettings.shape])
  | environment =>
      exact TraceSettings.plain.decides_within (composed_tracing composed)
        (fun tracing => SettingValue.text tracing.environment) SettingValue.text rfl
        means_text (fun _ _ => rfl) (by simp [TraceSettings.shape])
  | sampleRatio =>
      exact TraceSettings.plain.decides_within (composed_tracing composed)
        (fun tracing => SettingValue.share tracing.sampleRatio) SettingValue.share rfl
        means_share (fun _ _ => rfl) (by simp [TraceSettings.shape])
  | name =>
      exact ApplicationSettings.plain.decides_within (composed_application composed)
        (fun application => SettingValue.text application.name) SettingValue.text rfl
        means_text (fun _ _ => rfl) (by simp [ApplicationSettings.shape])
  | home =>
      exact ApplicationSettings.plain.decides_within (composed_application composed)
        (fun application => SettingValue.text application.home) SettingValue.text rfl
        means_text (fun _ _ => rfl) (by simp [ApplicationSettings.shape])

end Sections

/-! ## Layers -/

/--
Settings are a document over others below it: a setting that the document gives has the value that is told,
and every other one has the value below.
-/
structure Layered (document : Document) (below settings : Settings) : Prop where
  given : ∀ (setting : Setting) (part : Document), setting.given? document = some part →
    setting.told? part = some (setting.read settings)
  kept : ∀ setting : Setting, setting.given? document = none →
    setting.read settings = setting.read below

namespace Layered

variable {below base other : Settings}

/-- A document over some settings is one value. -/
theorem unique
    (left : Layered document below settings)
    (right : Layered document below other) :
    settings = other := by
  apply Setting.ext_read
  intro setting
  cases given : setting.given? document with
  | none => exact (left.kept setting given).trans (right.kept setting given).symm
  | some part =>
      have told := (left.given setting part given).symm.trans (right.given setting part given)
      exact Option.some.inj told

/-- A document over some settings is over others exactly if these agree in all that it leaves out. -/
theorem iff_agree (layered : Layered document below settings) :
    Layered document base settings ↔
      ∀ setting : Setting, setting.given? document = none → setting.read base = setting.read below := by
  constructor
  · intro also setting left
    exact (also.kept setting left).symm.trans (layered.kept setting left)
  · intro agree
    constructor
    · exact layered.given
    · intro setting left
      exact (layered.kept setting left).trans (agree setting left).symm

end Layered

/-- Settings that are composed of a document are the document over the defaults. -/
theorem layered_of_composed (composed : shape.Composed document settings) :
    Layered document {} settings := by
  constructor
  · intro setting part given
    have decides := decides_of_composed composed setting
    rw [given] at decides
    exact decides
  · intro setting left
    have decides := decides_of_composed composed setting
    rw [left] at decides
    exact decides

/-- Settings that a text gives are composed of the document that the text spells. -/
theorem composed_of_ofText
    {written : Notation}
    {content : String}
    (decodes : ofText written content = .ok settings) :
    ∃ document, Document.ofText? written content = some document ∧
      shape.Composed document settings := by
  have means := means_record plain
  cases written with
  | toml =>
      rw [ofText] at decodes
      split at decodes
      · rename_i found
        cases decodes
        obtain ⟨value, spelled, taken⟩ := Option.bind_eq_some_iff.mp found
        refine ⟨.toml value, ?_, means.ofToml value settings taken⟩
        rw [Document.ofText?, spelled]
        rfl
      · cases decodes
  | json =>
      have read : decoder.fromText (Bytes.ofString content) = .ok settings := by
        cases found : decoder.fromText (Bytes.ofString content) with
        | error fault =>
            rw [ofText, found] at decodes
            cases decodes
        | ok other =>
            rw [ofText, found] at decodes
            cases decodes
            rfl
      obtain ⟨json, spelled, composed⟩ := Json.readWhole_of_mirrors (means.ofText 127) read
      have whole : Json.ofBytes (Bytes.ofString content) = .ok json := spelled
      refine ⟨.json json, ?_, composed⟩
      rw [Document.ofText?, whole]
      rfl

namespace Loader

/-- What a text in a notation does as the next layer, where it spells a document and gives settings. -/
structure Layers
    (loader : Loader)
    (written : Notation)
    (content : String)
    (document : Document)
    (settings : Settings) : Prop where
  text : ∀ name, Notation.ofName? (Text.lower name) = some written →
    loader.withText content name = .ok (loader.withBase settings)
  file : ∀ tree path, tree.readText path = .ok content →
    Notation.ofName? ((Path.smallExtension? path).getD "") = some written →
      loader.withFile tree path = .ok (loader.withBase settings) ∧
        loader.withOptionalFile tree path = .ok (loader.withBase settings)
  /-- The document is over the settings below exactly if these have the defaults in all that it leaves out. -/
  layered : Layered document loader.settings settings ↔
    ∀ setting : Setting, setting.given? document = none →
      setting.read loader.settings = setting.read {}

theorem exists_of_readText
    {tree : FileTree}
    {path content : String}
    (read : tree.readText path = .ok content) :
    tree.exists? path = true := by
  rw [FileTree.exists?]
  cases found : tree.entry path with
  | ok entry => rfl
  | error fault =>
      rw [FileTree.readText, FileTree.read, found] at read
      cases read

theorem withText_of_ofText
    {written : Notation}
    {content name : String}
    {settings : Settings}
    (decodes : ofText written content = .ok settings)
    (named : Notation.ofName? (Text.lower name) = some written)
    (loader : Loader) :
    loader.withText content name = .ok (loader.withBase settings) := by
  simp only [withText, named, decodes]
  rfl

theorem withFile_of_ofText
    {written : Notation}
    {content path : String}
    {settings : Settings}
    {tree : FileTree}
    (decodes : ofText written content = .ok settings)
    (read : tree.readText path = .ok content)
    (named : Notation.ofName? ((Path.smallExtension? path).getD "") = some written)
    (loader : Loader) :
    loader.withFile tree path = .ok (loader.withBase settings) := by
  simp only [withFile, exists_of_readText read, Bool.not_true, Bool.false_eq_true, if_false, read,
    named, decodes]
  rfl

/--
A text that gives settings spells a document.  The settings are the document over the defaults, and nothing
else; they take the place of all that stood below, whichever settings the loader was given.
-/
theorem layers_of_ofText
    {written : Notation}
    {content : String}
    {settings : Settings}
    (decodes : ofText written content = .ok settings) :
    ∃ document, Document.ofText? written content = some document ∧
      (∀ other, Layered document {} other ↔ other = settings) ∧
        ∀ loader : Loader, loader.Layers written content document settings := by
  obtain ⟨document, spelled, composed⟩ := composed_of_ofText decodes
  have layered := layered_of_composed composed
  refine ⟨document, spelled, ?_, ?_⟩
  · intro other
    constructor
    · intro also
      exact also.unique layered
    · rintro rfl
      exact layered
  · intro loader
    constructor
    case text =>
      intro name named
      exact loader.withText_of_ofText decodes named
    case file =>
      intro tree path read named
      have next := loader.withFile_of_ofText decodes read named
      refine ⟨next, ?_⟩
      rw [withOptionalFile, if_pos (exists_of_readText read)]
      exact next
    case layered => exact layered.iff_agree

/-- A text that gives the name of an application, and nothing else. -/
def nameOnly : String :=
  "\x7b\"application\":\x7b\"name\":\"recipes\"\x7d\x7d"

theorem layers_of_ofText_nameOnly :
    ofText .json nameOnly = .ok { application := { name := "recipes" } } ∧
      ∃ document, Document.ofText? .json nameOnly = some document ∧
        (∀ other, Layered document {} other ↔ other = { application := { name := "recipes" } }) ∧
          ∀ loader : Loader,
            loader.Layers .json nameOnly document { application := { name := "recipes" } } := by
  have decodes : ofText .json nameOnly = .ok { application := { name := "recipes" } } := by
    decide +kernel
  exact ⟨decodes, layers_of_ofText decodes⟩

/-- Over the settings for development a text that gives no level sets the level of the log back. -/
theorem level_lost_over_development :
    ∃ document next, Document.ofText? .json nameOnly = some document ∧
      (({} : Loader).withBase development).withText nameOnly "json" = .ok next ∧
        Setting.level.given? document = none ∧
          Setting.level.read development = .text "debug" ∧
            Setting.level.read next.settings = .text "info" ∧
              ¬ Layered document development next.settings := by
  have spelled : Json.ofBytes (Bytes.ofString nameOnly) =
      .ok (.object [("application", .object [("name", .string "recipes")])]) := by
    decide +kernel
  have decodes : ofText .json nameOnly = .ok { application := { name := "recipes" } } := by
    decide +kernel
  have layered : (({} : Loader).withBase development).withText nameOnly "json" =
      .ok (({} : Loader).withBase { application := { name := "recipes" } }) :=
    Loader.withText_of_ofText decodes (by decide +kernel) _
  refine ⟨_, _, congrArg (fun outcome => outcome.toOption.map Document.json) spelled, layered, rfl, rfl,
    rfl, ?_⟩
  intro above
  have kept : SettingValue.text "info" = .text "debug" := above.kept .level rfl
  exact absurd kept (by decide)

end Loader

end Settings

end RequestHub
