import RequestHub.Application
import RequestHub.Settings.Loader
import RequestHub.Settings.VariableFile
import RequestHub.Telemetry

/-!
# The command line

The program is given a home and a file of settings, tells how it is used, or which version it is.  It
loads its settings and builds the application, or says why it cannot: first the failure, then what is
behind it, each cause on lines of its own.
-/

namespace RequestHub.CommandLine

/-! ## Arguments -/

/-- What the arguments of a run give. -/
structure Options where
  home : Option String := none
  config : Option String := none
deriving DecidableEq, Repr

/-- What the arguments ask for. -/
inductive Wish where
  | help
  | version
  | run (options : Options)
deriving DecidableEq, Repr

/-- Why arguments are not understood. -/
inductive Fault where
  | homeMissing
  | configMissing
  | unknown (argument : String)
deriving DecidableEq, Repr

/-- The wording of a fault. -/
def Fault.message : Fault → String
  | .homeMissing => "--home needs a directory"
  | .configMissing => "--config needs a file"
  | .unknown argument => "unknown argument: " ++ argument ++ " (use --help for usage)"

/-- The arguments that may stand for themselves. -/
def wish? (argument : String) : Option Wish :=
  if argument = "--help" || argument = "-h" then some .help
  else if argument = "--version" || argument = "-v" then some .version
  else none

/-- What arguments ask for, read from the left; the first that settles it does so. -/
def read (options : Options) : List String → Except Fault Wish
  | [] => .ok (.run options)
  | argument :: rest =>
      if argument = "--home" then
        match rest with
        | home :: rest => read { options with home := some home } rest
        | [] => .error .homeMissing
      else if argument = "--config" || argument = "-c" then
        match rest with
        | config :: rest => read { options with config := some config } rest
        | [] => .error .configMissing
      else
        match wish? argument with
        | some wish => .ok wish
        | none => .error (.unknown argument)

/-! ## Texts -/

/-- The version of the program, on a line. -/
def versionText : String :=
  "hubwork " ++ programVersion ++ "\n"

/-- The lines that tell how the program is used. -/
def helpLines : List String :=
  ["Hubwork - declarative request hub",
    "",
    "USAGE:",
    "    hubwork [OPTIONS]",
    "",
    "OPTIONS:",
    "        --home <DIR>       Application home holding hub.yaml and aggregates/",
    "    -c, --config <PATH>    Settings file (TOML or JSON), default ./hubwork.toml if present",
    "    -h, --help             Print help information",
    "    -v, --version          Print version information",
    "",
    "ENVIRONMENT VARIABLES:",
    "    HUBWORK__SERVER__PUBLIC_ADDR          Public listener (default: 0.0.0.0:3531)",
    "    HUBWORK__SERVER__PRIVATE_ADDR         Private listener (default: 127.0.0.1:3532)",
    "    HUBWORK__TELEMETRY__LOGGING__LEVEL    Log filter (RUST_LOG wins)",
    "    HUBWORK__TELEMETRY__TRACING__ENABLED  Export spans over OTLP (default: false)",
    "    HUBWORK__APPLICATION__HOME            Application home",
    ""]

/-- How the program is used. -/
def helpText : String :=
  String.join (helpLines.map (· ++ "\n"))

/-- The lines of a cause behind an indentation; the second one is for all lines but the first. -/
def indented (first other text : String) : String :=
  first ++ String.intercalate ("\n" ++ other) (text.splitOn "\n")

/-- The causes of a failure; they are numbered if there is more than one. -/
def causeTexts : List String → List String
  | [cause] => [indented "    " "    " cause]
  | causes =>
      causes.zipIdx.map fun (cause, number) =>
        let digits := toString number
        let blanks := String.ofList (List.replicate (5 - digits.length) ' ')
        indented (blanks ++ digits ++ ": ") "       " cause

/-- What is told of a failure and of what is behind it. -/
def failureText (message : String) (causes : List String) : String :=
  let told := "Error: " ++ message
  if causes.isEmpty then told ++ "\n"
  else
    told ++ "\n\nCaused by:\n" ++ String.intercalate "\n" (causeTexts causes) ++ "\n"

/-! ## Running -/

/-- A failure of the program: a message, and what is behind it, the nearest first. -/
structure Trouble where
  message : String
  causes : List String
deriving DecidableEq, Repr

namespace Trouble

/-- The failure of a configuration by itself. -/
def ofConfig (failure : ConfigFailure) : Trouble :=
  ⟨failure.message, failure.causes⟩

/-- The failure of a configuration behind what the program was about to do. -/
def behind (activity : String) (failure : ConfigFailure) : Trouble :=
  ⟨activity, failure.message :: failure.causes⟩

end Trouble

/-- The settings that are read if none are named. -/
def standardConfig : String := "hubwork.toml"

/-- The prefix of the variables that override settings. -/
def variableLead : String := "HUBWORK"

/-- The name of the file with more variables. -/
def variableFile : String := ".env"

/-- The paths of that file in the current directory and in those above it. -/
def variableFiles (tree : FileTree) : List String :=
  (List.range (tree.current.length + 1)).map fun height =>
    String.join (List.replicate height "../") ++ variableFile

/-- The environment with the variables of the nearest such file, if there is one. -/
def environment (tree : FileTree) (held : List Variable) : List Variable :=
  match (variableFiles tree).find? tree.isFile with
  | none => held
  | some path =>
      match tree.read path with
      | .ok content => VariableFile.load content held
      | .error _ => held

/-- The settings of a run. -/
def settings (tree : FileTree) (held : List Variable) (config : Option String) :
    Except Trouble Settings := do
  let loader : Settings.Loader := {}
  let loader ←
    match config with
    | some path => (loader.withFile tree path).mapError (Trouble.behind ("loading " ++ path))
    | none => (loader.withOptionalFile tree standardConfig).mapError Trouble.ofConfig
  ((loader.withVariables variableLead).load (environment tree held)).mapError Trouble.ofConfig

/-- The paths of the schemas that a home lists. -/
def schemaPaths (home : Home) : List String :=
  (home.schemas.flatMap fun list => list.2.spec.schemas).map fun schema =>
    Path.join (Path.join home.path "schemas") schema.file

/-- The paths at which a run looks, as far as the files that are known already tell them. -/
def paths (tree : FileTree) (held : List Variable) (options : Options) : List String :=
  let first := variableFiles tree ++ [options.config.getD standardConfig]
  match settings tree held options.config with
  | .error _ => first
  | .ok settings =>
      let home := options.home.getD settings.application.home
      let documents := (Home.hubFiles ++ ["aggregates", "schemas"]).map (Path.join home)
      match Home.read tree home with
      | .error _ => first ++ documents
      | .ok home => first ++ documents ++ schemaPaths home

/-- The application of a run. -/
def application (tree : FileTree) (held : List Variable) (options : Options) :
    Except Trouble Application := do
  let settings ← settings tree held options.config
  let plan : Application.Plan := { name := settings.application.name, settings, home := options.home }
  (plan.build tree .start).1.mapError (Trouble.behind "failed to build the hub")

/-- How a run ends: with a text and a code, or with an application that can be served. -/
inductive Ending where
  | exit (code : Nat) (output errors : String)
  | serve (application : Application)

/-- Runs the program on arguments, variables and files. -/
def run (arguments : List String) (held : List Variable) (tree : FileTree) : Ending :=
  match read {} arguments with
  | .error fault => .exit 1 "" (failureText fault.message [])
  | .ok .help => .exit 0 helpText ""
  | .ok .version => .exit 0 versionText ""
  | .ok (.run options) =>
      match application tree held options with
      | .ok application => .serve application
      | .error trouble => .exit 1 "" (failureText trouble.message trouble.causes)

end RequestHub.CommandLine
