import RequestHub.Settings.Loader
import RequestHub.Trial.Answer

/-!
# Layers of settings described in JSON

Each description takes one step of loading settings: a base, a text, a file, or the prefix of the
variables.
-/

namespace RequestHub.Trial

/-- A section of settings, with its defaults if it is not described. -/
def sectionIn {α : Type} (shape : Decoder.RecordShape α) (layer : Json) (name : String) : Answer α :=
  match layer.field? name with
  | some value => decode (.record shape) value
  | none => return shape.blank

/-- Settings put together from sections, and checked if that is asked for. -/
def settingsOfSections (layer : Json) : Answer Settings := do
  let settings : Settings :=
    { server := ← sectionIn ServerSettings.shape layer "server"
      telemetry := ← sectionIn TelemetrySettings.shape layer "telemetry"
      application := ← sectionIn ApplicationSettings.shape layer "application" }
  if layer.boolAt "validated" then orConfigFailure settings.checked else return settings

/-- Takes the step that a description asks for; files are looked up in a directory. -/
def withLayer (tree : FileTree) (directory : String) (loader : Settings.Loader) (layer : Json) :
    Answer Settings.Loader := do
  let path := Path.join directory (layer.textAt "name")
  match layer.textAt "layer" with
  | "development" => return loader.withBase .development
  | "production" => return loader.withBase .production
  | "base" => return loader.withBase (← decode Settings.decoder (layer.field "config"))
  | "builder" => return loader.withBase (← settingsOfSections layer)
  | "string" => orConfigFailure (loader.withText (layer.textAt "content") (layer.textAt "format"))
  | "file" => orConfigFailure (loader.withFile tree path)
  | "optional_file" => orConfigFailure (loader.withOptionalFile tree path)
  | _ => return loader.withVariables (layer.textAt "prefix")

/-- The variables of an environment. -/
def variablesOf (environment : Json) : List Variable :=
  environment.members.map fun (name, value) => ⟨name, value.text⟩

end RequestHub.Trial
