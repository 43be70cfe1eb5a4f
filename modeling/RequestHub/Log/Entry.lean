import RequestHub.Decoder

/-!
# Log entries

Logging tasks write entries.  An entry has a level, a message, the name of the task that wrote it,
and further texts by name, some of which are JSON.
-/

namespace RequestHub

/-- The weight of a log entry. -/
inductive LogLevel where
  | trace
  | debug
  | info
  | warn
  | error
deriving DecidableEq, Inhabited, Repr

namespace LogLevel

/-- The levels by the names under which settings know them. -/
def named : List (String × LogLevel) :=
  [("trace", trace), ("debug", debug), ("info", info), ("warn", warn), ("warning", warn),
    ("error", error)]

/-- The name of a level in an entry. -/
def name : LogLevel → String
  | .trace => "TRACE"
  | .debug => "DEBUG"
  | .info => "INFO"
  | .warn => "WARN"
  | .error => "ERROR"

/-- The level that a text names, in letters of either case. -/
def ofString (text : String) : Except String LogLevel :=
  match named.lookup (Text.lowerAscii text) with
  | some level => .ok level
  | none => .error ("unknown log level " ++ Text.quoted text)

/-- Reads a level by its name. -/
def decoder : Decoder LogLevel :=
  Decoder.string.refine ofString

end LogLevel

/-- What a logging task writes. -/
structure LogEntry where
  level : LogLevel
  message : String
  task : String
  details : List (String × String)
deriving DecidableEq, Inhabited, Repr

end RequestHub
