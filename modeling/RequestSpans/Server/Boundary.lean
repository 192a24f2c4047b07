import RequestSpans.Config.Basic
import RequestSpans.Instrumentation
import RequestSpans.Server.Tags

set_option autoImplicit false

namespace RequestSpans

structure ServerBoundary where
  instrumentation : Instrumentation
  decorators : DecoratorChain
  skip : SkipMatcher
  scope : UrlScope
  enabled : Bool

inductive Admission where
  | skipped
  | redispatch (span : SpanContext)
  | started (span : SpanContext)
deriving Repr, DecidableEq, Inhabited

namespace ServerBoundary

def standard (instrumentation : Instrumentation) : ServerBoundary :=
  { instrumentation := instrumentation,
    decorators := ⟨[ServerTags.decorator "http-server"]⟩,
    skip := .none, scope := .everything, enabled := true }

def ofConfig [Pattern.Engine] (instrumentation : Instrumentation) (config : TracingConfig)
    (discovered : List (Option PathPattern)) : Except BuildError ServerBoundary :=
  (config.skipMatcher discovered).bind fun skip =>
    config.urlScope.map fun scope =>
      { instrumentation := instrumentation,
        decorators := ⟨[ServerTags.decorator config.server.component]⟩,
        skip := skip, scope := scope, enabled := config.serverEnabled }

def isTraced (boundary : ServerBoundary) (request : Request) (t : Telemetry) : Bool × Telemetry :=
  let path := request.uri.path
  if !boundary.enabled then (false, t)
  else if !boundary.scope.covers path then
    (false, t.log .debug "request outside traced url patterns" [("path", path)])
  else if boundary.skip.skips path then
    (false, t.log .debug "request matches skip pattern" [("path", path)])
  else (true, t)

def openSpan (boundary : ServerBoundary) (request : Request) (t : Telemetry) :
    SpanContext × Request × Telemetry :=
  let parent := boundary.instrumentation.extract request.headers t
  let (span, t) := boundary.instrumentation.startSpan request.method .server parent [] t
  let marks := { request.marks with wrapper? := some span, active? := some (.of span) }
  let request := { request with marks := marks }
  let ((), t) := t.within (.of span) fun t =>
    ((), boundary.decorators.invoke (.request request) (some span) t)
  (span, request, t)

def enter (boundary : ServerBoundary) (request : Request) (t : Telemetry) :
    Admission × Request × Telemetry :=
  match request.marks.wrapper? with
  | some span => (.redispatch span, request, t)
  | none =>
    let (traced, t) := if request.marks.untraced then (false, t) else boundary.isTraced request t
    if traced then
      let (span, request, t) := boundary.openSpan request t
      (.started span, request, t)
    else
      (.skipped, { request with marks := { request.marks with untraced := true } }, t)

def unfinished (request : Request) (t : Telemetry) : Option SpanContext × Telemetry :=
  match request.marks.wrapper? with
  | none => (none, t)
  | some span =>
    if t.isFinished span then
      (none, t.log .trace "server span already finished" [("span_id", span.spanHex)])
    else (some span, t)

def close (boundary : ServerBoundary) (request : Request) (hook : Hook)
    (actions : List SpanAction) (t : Telemetry) : Telemetry :=
  match unfinished request t with
  | (none, t) => t
  | (some span, t) =>
    (t.within (.of span) fun t =>
      let t := boundary.decorators.invoke hook (some span) t
      ((), ((t.act span actions).finish span).2)).2

def statusActions (response : Response) : List SpanAction :=
  if response.status.isServerError then [.status (.error response.status.describe)] else []

def complete (boundary : ServerBoundary) (request : Request) (response : Response)
    (t : Telemetry) : Telemetry :=
  if request.marks.asyncPending then
    t.log .debug "async dispatch pending, server span stays open" []
  else boundary.close request (.response request response) (statusActions response) t

def fail (boundary : ServerBoundary) (request : Request) (fault : Fault) (t : Telemetry) :
    Telemetry :=
  boundary.close request (.error request fault) [] t

def cancel (_boundary : ServerBoundary) (request : Request) (t : Telemetry) : Telemetry :=
  match unfinished request t with
  | (none, t) => t
  | (some span, t) =>
    ((t.log .debug "request cancelled" [("span_id", span.spanHex)]).finish span).2

end ServerBoundary

end RequestSpans
