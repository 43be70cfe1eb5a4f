import RequestHub.Settings.Check
import RequestHub.Settings.Variable
import RequestHub.Toml.Document

/-!
# Loading settings

Settings are loaded in layers.  A layer is a base, a text or a file, in TOML or in JSON, and takes the
place of the layers before it: what it does not give has its default.  Variables of the environment
come last, whenever their prefix was named, and then the settings are checked.
-/

namespace RequestHub

namespace Decoder

/-- The value of a type that a TOML text spells. -/
def fromToml? {α : Type} (decoder : Decoder α) (text : String) : Option α := do
  decoder.ofToml (← Toml.Document.ofString? text)

end Decoder

namespace Settings

/-- A notation in which settings are written. -/
inductive Notation where
  | toml
  | json
deriving DecidableEq, Repr

/-- The notation that a name in small letters stands for. -/
def Notation.ofName? : String → Option Notation
  | "toml" => some .toml
  | "json" => some .json
  | _ => none

/-- The settings that a text gives. -/
def ofText (written : Notation) (text : String) : Except ConfigFailure Settings :=
  match written with
  | .toml =>
      match decoder.fromToml? text with
      | some settings => .ok settings
      | none => .error .toml
  | .json => (decoder.fromText (Bytes.ofString text)).mapError .json

/-- Settings on their way: the last layer, and the prefix of the variables. -/
structure Loader where
  settings : Settings := {}
  lead : Option String := none
deriving Repr

namespace Loader

/-- Takes settings as the next layer. -/
def withBase (loader : Loader) (settings : Settings) : Loader :=
  { loader with settings }

/-- Takes the settings of a text as the next layer. -/
def withText (loader : Loader) (content : String) (name : String) : Except ConfigFailure Loader := do
  let small := Text.lower name
  match Notation.ofName? small with
  | some written => return loader.withBase (← ofText written content)
  | none => .error (.invalid ("unsupported configuration format: " ++ small))

/-- Takes the settings of a file as the next layer; its extension names the notation. -/
def withFile (loader : Loader) (tree : FileTree) (path : String) : Except ConfigFailure Loader :=
  if !tree.exists? path then .error (.fileNotFound path)
  else
    match tree.readText path with
    | .error fault => .error (.unreadable path fault)
    | .ok content => do
        match Notation.ofName? ((Path.smallExtension? path).getD "") with
        | some written => return loader.withBase (← ofText written content)
        | none => .error (.invalid ("unsupported configuration file format: " ++ path))

/-- Takes the settings of a file as the next layer, if there is such a file. -/
def withOptionalFile (loader : Loader) (tree : FileTree) (path : String) :
    Except ConfigFailure Loader :=
  if tree.exists? path then loader.withFile tree path else .ok loader

/-- Names the prefix of the variables that are to override settings. -/
def withVariables (loader : Loader) (lead : String) : Loader :=
  { loader with lead := some (Text.upper lead) }

/-- The settings as the variables leave them. -/
def overridden (loader : Loader) (held : List Variable) : Except ConfigFailure Settings :=
  match loader.lead with
  | some lead => Variable.overrideAll lead loader.settings held
  | none => .ok loader.settings

/-- The settings as the variables leave them, if they pass the check. -/
def load (loader : Loader) (held : List Variable) : Except ConfigFailure Settings := do
  (← loader.overridden held).checked

end Loader

end Settings

end RequestHub
