import RequestHub.KeyValue.Target
import RequestHub.Log.Task
import RequestHub.Plugin.PassThrough
import RequestHub.Plugin.TraceStart
import RequestHub.Registry
import RequestHub.Remote.Forward

/-!
# The built-in plugins

Documents can name these types without any registration of their own: three logging tasks, the task that
asks a remote hub, the task that starts a trace, and the targets that pass through, ask a remote hub and
keep documents.
-/

namespace RequestHub.BuiltIn

/-- The factory of logging tasks of a type. -/
def logging (typeName : String) (shape : Decoder.RecordShape Log.Config)
    (task : Log.Config → Task) : Factory Task where
  label := typeName
  make _ config := do
    return task (← Plugin.configuration typeName (.record shape) config)

/-- The factories of tasks by their types. -/
def tasks : List (String × Factory Task) :=
  [(Log.requestLogger,
      logging Log.requestLogger (Log.Config.shape "RequestLoggerConfig") Log.requestTask),
    (Log.responseLogger,
      logging Log.responseLogger (Log.Config.shape "ResponseLoggerConfig") Log.responseTask),
    (Log.writer, logging Log.writer Log.Config.writerShape Log.writerTask),
    (Remote.typeName,
      ⟨Remote.typeName, fun _ config => do
        return Remote.task (← Remote.Client.read Remote.typeName config)⟩),
    (TraceStart.typeName, ⟨TraceStart.typeName, fun _ config => TraceStart.read config⟩)]

/-- The factories of targets by their types. -/
def targets : List (String × Factory Target) :=
  [(PassThrough.typeName, ⟨PassThrough.typeName, fun _ _ => .ok PassThrough.target⟩),
    (Remote.typeName,
      ⟨Remote.typeName, fun _ config => do
        return Remote.target (← Remote.Client.read Remote.typeName config)⟩),
    (KeyValue.typeName,
      ⟨KeyValue.typeName, fun serial config => do
        return KeyValue.target (← KeyValue.Config.read KeyValue.typeName config).idField serial⟩)]

/-- Registries with the built-in plugins as well. -/
def register (registries : Registries) : Registries :=
  targets.foldl (fun registries (name, factory) => registries.withTarget name factory)
    (tasks.foldl (fun registries (name, factory) => registries.withTask name factory) registries)

end RequestHub.BuiltIn
