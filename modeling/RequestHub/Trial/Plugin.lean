import RequestHub.Description
import RequestHub.Registry

/-!
# Plugins for trials

Plugins that make the course of a request visible: tasks that leave a mark, fail, wait, edit or report,
and targets that send back the body, always give one response, give none, or fail.
-/

namespace RequestHub.Trial

/-- The fault of a trial plugin. -/
def fault (reason : String) : Failure :=
  .plugin (.words ("fixture failure: " ++ reason))

/-! ## Tasks -/

/-- A request with some bytes behind its response's body or, without a response, behind its own. -/
def mark (bytes : Bytes) (request : Request) : Request :=
  match request.response with
  | some response => request.attach { response with body := response.body ++ bytes }
  | none => { request with body := request.body ++ bytes }

/-- The task that leaves a mark, which is its name. -/
def marker (text : String) : Task where
  name := text
  run _ := Work.modify (mark (Bytes.ofString text))

/-- The task that fails with its name. -/
def failing (name : String) : Task where
  name := name
  run _ := Work.fail (fault name)

/-- The task that waits for some nanoseconds, unless its context ends before. -/
def slow (delay : Nat) : Task where
  name := "slow"
  run context := Work.within context (Work.wait delay)

/-- The header fields that a configuration describes under a name. -/
def headersOf (plugin : String) (config : Json) (name : String) : Except Failure Headers :=
  (Description.headersAt config name).mapError fun
    | .headerName => .invalidPluginConfig plugin "invalid HTTP header name"
    | _ => .invalidPluginConfig plugin "failed to parse header value"

/-- Edits the request as a configuration says. -/
def editRequest (config : Json) : Work Request Unit := do
  if let some body := config.field? "body" then
    Work.modify fun request => { request with body := Description.bytes body }
  let headers ← Work.ofExcept (headersOf "edit" config "headers")
  let trailers ← Work.ofExcept (headersOf "edit" config "trailers")
  Work.modify fun request =>
    { request with
      headers := Description.setAll headers request.headers
      trailers := Description.setAll trailers request.trailers }

/-- Edits the response as a configuration says. -/
def editResponse (config : Json) : Work Request Unit := do
  if let some status := (config.natAt? "status").bind Status.ofNat? then
    Work.modifyResponse fun response => { response with status }
  if let some body := config.field? "response_body" then
    Work.modifyResponse fun response => { response with body := Description.bytes body }
  let headers ← Work.ofExcept (headersOf "edit" config "response_headers")
  let trailers ← Work.ofExcept (headersOf "edit" config "response_trailers")
  Work.modifyResponse fun response =>
    { response with
      headers := Description.appendAll headers response.headers
      trailers := Description.appendAll trailers response.trailers }

/-- The task that edits the request and the response, and may end the work. -/
def edit (config : Json) : Task where
  name := "edit"
  run context := do
    editRequest config
    if (← Work.request).response.isSome then editResponse config
    if config.boolAt "take_response" then Work.modify Request.detach
    if config.boolAt "cancel" then Work.cancel context
    if let some raised := config.field? "raise" then Work.fail (Description.failure raised)

/-- The task that writes behind the body what it sees of its context. -/
def probe : Task where
  name := "probe"
  run context := do
    let session ← Work.session
    let request ← Work.request
    let remaining := (context.remaining? session).map (· / Session.milli)
    let report := Json.ofMembers
      [("cancelled", .bool (context.hasEnded session)),
        ("own_id", .bool (context.requestId = some request.id)),
        ("remaining_ms", .ofNat? remaining), ("tagged", .bool context.requestId.isSome)]
    let seen := Bytes.ofString report.render
    Work.modify fun request => { request with body := request.body ++ seen }

/-! ## Targets -/

/-- The target that sends back the body and counts its calls under a number. -/
def echo (serial : Nat) : Target where
  run _ := do
    Work.update fun session => { session with called := session.called ++ [serial] }
    let request ← Work.request
    return some { Response.ofStatus .ok with body := request.body }

/-- The target that always gives one response. -/
def static (response : Response) : Target where
  run _ := return some response

/-- The response that a configuration describes. -/
def responseOf (config : Json) : Except Failure Response := do
  match Status.ofNat? ((config.natAt? "status").getD 200) with
  | none => .error (.invalidPluginConfig "static" "invalid status code")
  | some status => do
      let headers ← headersOf "static" config "headers"
      let trailers ← headersOf "static" config "trailers"
      return { status, headers, trailers, body := Description.bytes (config.field "body") }

/-- The target that gives no response. -/
def empty : Target where
  run _ := return none

/-- The target that fails for a reason. -/
def failingTarget (reason : String) : Target where
  run _ := Work.fail (fault reason)

/-- The target that waits and then fails as a configuration describes. -/
def raising (config : Json) : Target where
  run _ := do
    Work.wait (config.natAt "ms" * Session.milli)
    Work.fail (Description.failure config)

/-! ## Registration -/

/-- The name of the type of the target that counts its calls. -/
def echoType : String := "echo"

/-- The tasks by their types. -/
def tasks : List (String × (Json → Task)) :=
  [("marker", fun config => marker (config.textAt "marker")),
    ("fail", fun config => failing (config.textAt "name")),
    ("slow", fun config => slow (config.natAt "ms" * Session.milli)), ("edit", edit),
    ("probe", fun _ => probe)]

/-- The targets by their types. -/
def targets : List (String × (Nat → Json → Except Failure Target)) :=
  [(echoType, fun serial _ => .ok (echo serial)),
    ("static", fun _ config => do return static (← responseOf config)),
    ("empty", fun _ _ => .ok empty),
    ("fail_target", fun _ config => .ok (failingTarget (config.textAt "reason"))),
    ("raise", fun _ config => .ok (raising config))]

/-- Registries with the trial plugins as well. -/
def register (registries : Registries) : Registries :=
  targets.foldl (fun registries (name, make) => registries.withTarget name ⟨name, make⟩)
    (tasks.foldl
      (fun registries (name, make) =>
        registries.withTask name ⟨name, fun _ config => .ok (make config)⟩)
      registries)

end RequestHub.Trial
