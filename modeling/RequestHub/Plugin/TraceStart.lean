import RequestHub.Plugin

/-!
# The task that starts a trace

The task starts a span and writes its identifiers into the header fields of the request, so that whoever
gets the request next belongs to the same trace.  The span continues the one to which the work belongs
or, if that is not valid, the one that the header fields tell of.
-/

namespace RequestHub.TraceStart

/-- The name of the task's type. -/
def typeName : String := "initiate_trace"

/-- The configuration: the name of the task. -/
def shape : Decoder.RecordShape (Option String) where
  name := "InitiateTraceConfig"
  closed := true
  blank := none
  fields := [.defaulted "name" (.optional .string) fun name _ => name]

/-- The span that the task continues. -/
def parent? (current : Option Span) (headers : Headers) : Option Span :=
  match current.filter Span.isValid with
  | some span => some span
  | none => Span.extract? headers

/-- The task under a name. -/
def task (name : String) : Task where
  name := name
  run _ := do
    let current ← Work.span
    let request ← Work.request
    let span ← Work.take fun session => session.freshSpan (parent? current request.headers)
    Work.modify fun request => { request with headers := span.inject request.headers }

/-- The task that a configuration describes. -/
def read (config : Json) : Except Failure Task := do
  let name ← Plugin.configuration typeName (.record shape) config
  return task (name.getD typeName)

end RequestHub.TraceStart
