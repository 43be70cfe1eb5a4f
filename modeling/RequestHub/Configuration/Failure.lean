import RequestHub.Failure
import RequestHub.Files

/-!
# Why a configuration fails

Settings and documents are read from files, checked and compiled.  What can go wrong on the way is
a constructor of `ConfigFailure`.  `message` puts a failure into words, and `causes` lists what
is behind it, the nearest first.
-/

namespace RequestHub

/-- Why a configuration cannot be used. -/
inductive ConfigFailure where
  | fileNotFound (path : String)
  | unreadable (path : String) (fault : FileFault)
  /-- Settings that are not TOML, or whose TOML does not fit. -/
  | toml
  /-- Settings that are not JSON, or whose JSON does not fit. -/
  | json (fault : Json.Fault)
  /-- A document that does not fit; for YAML it is not told why. -/
  | document (path : String) (fault : Option Json.Fault)
  | invalidValue (field reason : String)
  | environment (name reason : String)
  | invalid (message : String)
  /-- A plugin of an aggregate that cannot be made. -/
  | aggregate (name : String) (handler : Option String) (failure : Failure)
deriving DecidableEq, Repr

namespace ConfigFailure

/-- The handler of an aggregate in the words of a message. -/
def handlerSuffix : Option String → String
  | some handler => " (handler " ++ handler ++ ")"
  | none => ""

/-- The wording of a failure. -/
def message : ConfigFailure → String
  | .fileNotFound path => "configuration file not found: " ++ path
  | .unreadable path _ => "failed to read configuration file: " ++ path
  | .toml => "failed to parse TOML configuration"
  | .json fault => "failed to parse JSON configuration: " ++ fault.message
  | .document path (some fault) => "failed to parse " ++ path ++ ": " ++ fault.message
  | .document path none => "failed to parse " ++ path
  | .invalidValue field reason =>
      "invalid configuration value for " ++ field ++ ": " ++ reason
  | .environment name reason =>
      "failed to parse environment variable " ++ name ++ ": " ++ reason
  | .invalid message => "configuration validation failed: " ++ message
  | .aggregate name handler failure =>
      "failed to configure aggregate " ++ name ++ handlerSuffix handler ++ ": " ++ failure.message

/-- What is behind the failure of a hub, the nearest first. -/
def failureCauses : Failure → List String
  | .plugin fault => [fault.message]
  | _ => []

/-- What is behind a failure, the nearest first. -/
def causes : ConfigFailure → List String
  | .unreadable _ fault => [fault.message]
  | .json fault => [fault.message]
  | .aggregate _ _ failure => failure.message :: failureCauses failure
  | _ => []

end ConfigFailure

end RequestHub
