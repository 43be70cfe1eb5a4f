import RequestHub.Plugin.PassThrough
import RequestHub.Proofs.Dispatch.Handling
import RequestHub.Proofs.Trace.Lineage

/-!
# The trace of a caller goes on

The span in which a hub handles a request continues the span that the request tells of; without one it
continues the span around the work, and without that it begins a trace that no span of the session before
belongs to.  `Traces` says what follows for the dispatch: which trace the tasks that start spans write into
the request, and which trace the postings to remote hubs tell of, however often they are attempted and
whatever other steps have made of the header fields.
-/

namespace RequestHub

variable {span root : Span}

/-- A task that starts a span continues the one to which it belongs, whatever the header fields are. -/
theorem TraceStart.told
    (fits : span.Fits)
    (continues : span.Continues root)
    {scope : Scope}
    (around : scope.span = some span)
    (name : String)
    (context : Context)
    (request : Request)
    (session : Session) :
    ∃ changed later,
      (TraceStart.task name).run context scope request session = (.done (), changed, later) ∧
        root.Told changed.headers := by
  have parent : TraceStart.parent? scope.span request.headers = some span := by
    rw [TraceStart.parent?, around, Option.filter_some, if_pos fits.valid]
  have started := session.freshSpan_of_parent fits
  refine ⟨_, _, rfl, ?_⟩
  change root.Told ((session.freshSpan (TraceStart.parent? scope.span request.headers)).1.inject
    request.headers)
  rw [parent]
  exact (Span.told_inject started.1 request.headers).of_continues (started.2.trans continues)

/-- What is posted in a span tells of its trace. -/
theorem Remote.told_postedHeaders (fits : span.Fits) (continues : span.Continues root) :
    root.Told (Remote.postedHeaders (some span)) :=
  (Span.told_inject fits _).of_continues continues

namespace Hub

variable {hub : Hub} {context : Context} {scope : Scope} {request : Request} {session : Session}

/-- The span to which a dispatch belongs, by what the request tells and what is around. -/
structure IsRoot (scope : Scope) (request : Request) (session : Session) (root : Span) : Prop where
  fits : root.Fits
  /-- The trace is that of the caller, and sampled if the caller's is. -/
  caller : ∀ {span}, Span.extract? request.headers = some span → root.Continues span
  around : Span.extract? request.headers = none → ∀ {span}, scope.span = some span →
    root.Continues span
  /-- Without a caller's trace the dispatch begins one, which is none of those begun before. -/
  begins : Span.extract? request.headers = none → scope.span = none →
    root.trace = session.traceNumber ∧
      ∀ {earlier : Session}, earlier.made < session.made → session.made < earlier.made + twoTo 63 →
        root.trace ≠ earlier.traceNumber

/-- A dispatch belongs to a span, and all that it tells of spans tells of the trace of that one. -/
structure Traces
    (hub : Hub) (context : Context) (scope : Scope) (request : Request) (session : Session)
    (root : Span) : Prop where
  isRoot : IsRoot scope request session root
  /-- A task that starts a span writes the trace into the request, wherever the task stands. -/
  written : ∀ {calls way passage index changed later step name},
    Dispatch.Run hub context (Dispatch.spanned scope request session).1
      ⟨.received, request, (Dispatch.spanned scope request session).2⟩ calls
      ⟨.underway way passage index, changed, later⟩ →
    (passage.steps way)[index]? = some step → step.task = TraceStart.task name →
    ∃ next ended,
      Dispatch.Move hub context (Dispatch.spanned scope request session).1
        ⟨.underway way passage index, changed, later⟩ [.step way index]
        ⟨.underway way passage (index + 1), next, ended⟩ ∧
      root.Told next.headers
  /-- Every attempt to reach a remote hub tells of the trace, whatever becomes of the dispatch. -/
  posted : ∃ postings,
    (hub.handle context scope request session).2.2.posted = session.posted ++ postings ∧
      ∀ posting ∈ postings, root.Told posting.headers

/-- A hub handles a request in the span to which the dispatch belongs. -/
theorem exists_isRoot
    (bounded : ∀ {span}, scope.span = some span → span.Fits)
    (request : Request)
    (session : Session) :
    ∃ root, (Dispatch.spanned scope request session).1.span = some root ∧
      IsRoot scope request session root := by
  refine ⟨_, rfl, ?_⟩
  -- The caller's span comes first, then the one around, and only then a trace begins.
  cases found : Span.extract? request.headers with
  | some span =>
      have started := session.freshSpan_of_parent (Span.fits_of_extract? found)
      rw [Option.orElse_some]
      refine ⟨started.1, fun {other} same => ?_, fun missing => ?_, fun missing => ?_⟩
      · obtain rfl := Option.some.inj (found.symm.trans same)
        exact started.2
      · cases found.symm.trans missing
      · cases found.symm.trans missing
  | none =>
      rw [Option.orElse_none]
      cases around : scope.span with
      | some span =>
          have started := session.freshSpan_of_parent (bounded around)
          refine ⟨started.1, fun {other} same => ?_, fun _ {other} same => ?_, fun _ alone => ?_⟩
          · cases found.symm.trans same
          · obtain rfl := Option.some.inj (around.symm.trans same)
            exact started.2
          · cases around.symm.trans alone
      | none =>
          have started := session.freshSpan_of_none
          refine ⟨started.1, fun {other} same => ?_, fun _ {other} same => ?_, fun _ _ => ?_⟩
          · cases found.symm.trans same
          · cases around.symm.trans same
          · refine ⟨started.2, fun {earlier} before room same => ?_⟩
            exact Session.traceNumber_ne before room (same.symm.trans started.2)

/--
A dispatch belongs to one trace, that of its caller if the request tells of one: whatever tasks the handler
has besides those that start spans and those that ask remote hubs, all of these tell of that trace.
-/
theorem handle_traces
    (hub : Hub)
    (context : Context)
    (scope : Scope)
    (request : Request)
    (session : Session)
    (bounded : ∀ {span}, scope.span = some span → span.Fits)
    (tracing : ∀ {service handler},
      hub.resolve request.route.api request.route.service = some service →
      service.handler request.method = some handler → handler.Tracing) :
    ∃ root, hub.Traces context scope request session root := by
  obtain ⟨root, inside, isRoot⟩ := exists_isRoot bounded request session
  refine ⟨root, isRoot, ?_, ?_⟩
  -- How the dispatch has come to the step is not used: the span of the scope decides, not the request.
  · intro calls way passage index changed later step name _ ahead starts
    have around : (passage.scope (Dispatch.spanned scope request session).1).span = some root := inside
    obtain ⟨next, ended, ran, told⟩ :=
      TraceStart.told isRoot.fits (.refl root) around name passage.context changed later
    refine ⟨next, ended, .stepDone ahead ?_, told⟩
    rw [starts]
    exact ran
  · have each (posting : Posting) (same : posting.headers = Remote.postedHeaders (some root)) :
        root.Told posting.headers := by
      rw [same]
      exact Remote.told_postedHeaders isRoot.fits (.refl root)
    exact route_posts each inside tracing

/-- A handler that starts a span, forgets it, and asks a remote hub, at most twice, before its target. -/
def courier : Handler where
  serial := 0
  inbound := some (.ofSteps
    [⟨"start", 0, "", none, TraceStart.task "start"⟩,
      ⟨"forget", 1, "", none, ⟨"forget", fun _ => Work.modify fun request =>
        { request with headers := Names.erase Span.parentField request.headers }⟩⟩,
      ⟨"ask", 2, "", none, Remote.task
        { host := "http://depot", base := "", timeoutMs := none
          backoff := { initial := 0, longest := 0, factor := Real64.ofInt 1, attempts := 2 } }⟩])
  outbound := none
  target := some PassThrough.target
  targetName := none
  targetType := none

/-- A hub with a service that has the handler `courier` alone. -/
def depot : Hub :=
  (Hub.make "store").install ((Service.make "shop" "cart").setHandler .post courier)

/-- A request that tells of a span of its caller. -/
def traced : Request :=
  { Dispatch.order with
    headers :=
      [("traceparent",
        [Bytes.ofString "00-4bf92f3577b34da6a3ce929d0e0e4736-00f067aa0ba902b7-01"])] }

theorem courier_tracing : courier.Tracing where
  inbound := by
    refine List.forall_mem_cons.mpr ⟨.starts "start", List.forall_mem_cons.mpr ⟨?_, ?_⟩⟩
    · exact .edits fun _ _ _ _ => rfl
    · exact List.forall_mem_singleton.mpr (.asks _)
  target target found := by
    obtain rfl := Option.some.inj found
    exact .answers fun _ _ _ _ => rfl
  outbound := fun _ member => absurd member List.not_mem_nil

theorem eq_courier
    {api name : String} {service : Service} {handler : Handler}
    (found : depot.resolve api name = some service)
    (handled : service.handler .post = some handler) :
    handler = courier := by
  rw [depot, resolve_install] at found
  split at found
  · obtain rfl := Option.some.inj found
    exact (Option.some.inj handled).symm
  · cases found

/-- Both attempts tell of the trace of the caller, which the request does not tell of any more. -/
theorem handle_traces_courier :
    (∀ {service handler},
        depot.resolve traced.route.api traced.route.service = some service →
        service.handler traced.method = some handler → handler.Tracing) ∧
      (∀ {span}, (default : Scope).span = some span → span.Fits) ∧
      ∃ root, depot.Traces (.ofToken []) default traced Dispatch.morning root ∧
        root.trace = 0x4bf92f3577b34da6a3ce929d0e0e4736 ∧ root.sampled = true ∧
        (depot.handle (.ofToken []) default traced Dispatch.morning).2.2.posted.length = 2 := by
  have tracing {service : Service} {handler : Handler}
      (found : depot.resolve traced.route.api traced.route.service = some service)
      (handled : service.handler traced.method = some handler) : handler.Tracing :=
    eq_courier found handled ▸ courier_tracing
  have bounded {span : Span} (around : (default : Scope).span = some span) : span.Fits := by
    cases around
  have told : Span.extract? traced.headers =
      some ⟨0x4bf92f3577b34da6a3ce929d0e0e4736, 0x00f067aa0ba902b7, true, []⟩ := by
    decide +kernel
  have attempts :
      (depot.handle (.ofToken []) default traced Dispatch.morning).2.2.posted.length = 2 := by
    decide +kernel
  obtain ⟨root, traces⟩ :=
    handle_traces depot (.ofToken []) default traced Dispatch.morning bounded tracing
  have continues := traces.isRoot.caller told
  exact ⟨tracing, bounded, root, traces, continues.trace_eq, continues.sampled_eq, attempts⟩

end Hub

end RequestHub
