import RequestSpans.Instrumentation
import RequestSpans.Server.Tags

set_option autoImplicit false

namespace RequestSpans

-- Coordinators of one name share whether they have reported a missing server
-- span.
structure HandlerCoordinator where
  name : String
  instrumentation : Instrumentation
  decorators : DecoratorChain

namespace HandlerCoordinator

def standardDecorators : DecoratorChain := ⟨[HandlerLogs.decorator, HandlerOperationName.decorator]⟩

def standard (name : String) (instrumentation : Instrumentation) : HandlerCoordinator :=
  ⟨name, instrumentation, standardDecorators⟩

def continueSpan (coordinator : HandlerCoordinator) (server : SpanContext) (handler : Handler)
    (t : Telemetry) : SpanContext × Telemetry :=
  let (span, t) := coordinator.instrumentation.startSpan handler.operationName .server
    (.of server) [server] t
  let t := t.update span fun s => s.addAttribute ("handler", .text handler.display)
  let t := t.log .debug "opened continuation span"
    [("handler", handler.display), ("follows_from", server.spanHex)]
  (span, t)

def reportMissing (coordinator : HandlerCoordinator) (handler : Handler) (t : Telemetry) :
    Telemetry :=
  if t.reported.contains coordinator.name then t
  else
    { t with reported := coordinator.name :: t.reported }.log .error
      "no server span on request; install the server tracing layer in front of handlers"
      [("handler", handler.display)]

def resume (coordinator : HandlerCoordinator) (server : SpanContext) (request : Request)
    (handler : Handler) (t : Telemetry) : SpanContext × Request × Telemetry :=
  let open? := (request.marks.continuation? handler).filter fun span => !t.isFinished span
  let (span, table, t) := match open? with
    | some span => (span, request.marks.continuations, t)
    | none =>
      let (span, t) := coordinator.continueSpan server handler t
      (span, Marks.putContinuation request.marks.continuations handler span, t)
  let marks := { request.marks with continuations := table, active? := some (.of span) }
  (span, { request with marks := marks }, t)

def activate (coordinator : HandlerCoordinator) (request : Request) (handler : Handler)
    (t : Telemetry) : Option SpanContext × Request × Telemetry :=
  if request.marks.untraced then (none, request, t)
  else
    match request.marks.wrapper? with
    | none => (none, request, coordinator.reportMissing handler t)
    | some server =>
      if !t.isFinished server then (some server, request, t)
      else
        let (span, request, t) := coordinator.resume server request handler t
        (some span, request, t)

def invoke (coordinator : HandlerCoordinator) (hook : Hook) (span : SpanContext) (t : Telemetry) :
    Telemetry :=
  (t.within (.of span) fun t => ((), coordinator.decorators.invoke hook (some span) t)).2

def preHandle (coordinator : HandlerCoordinator) (request : Request) (handler : Handler)
    (t : Telemetry) : Request × Telemetry :=
  if request.marks.asyncPending then
    ({ request with marks := { request.marks with asyncPending := false } },
      t.log .debug "async dispatch resumed" [("handler", handler.display)])
  else
    match coordinator.activate request handler t with
    | (none, request, t) => (request, t)
    | (some span, request, t) =>
      (request, coordinator.invoke (.preHandle request handler) span t)

def endContinuation (span : SpanContext) (request : Request) (t : Telemetry) :
    Request × Telemetry :=
  let t := (t.finish span).2
  match request.marks.wrapper? with
  | some server =>
    ({ request with marks := { request.marks with active? := some (.of server) } }, t)
  | none => (request, t)

def afterCompletion (coordinator : HandlerCoordinator) (request : Request)
    (response? : Option Response) (handler : Handler) (fault? : Option Fault) (t : Telemetry) :
    Request × Telemetry :=
  match coordinator.activate request handler t with
  | (none, request, t) => (request, t)
  | (some span, request, t) =>
    let t := coordinator.invoke (.afterCompletion request handler response? fault?) span t
    if request.marks.continuation? handler = some span then endContinuation span request t
    else (request, t)

def asyncStarted (coordinator : HandlerCoordinator) (request : Request) (handler : Handler)
    (t : Telemetry) : Request × Telemetry :=
  let (request, t) := match coordinator.activate request handler t with
    | (none, request, t) => (request, t)
    | (some span, request, t) =>
      (request, coordinator.invoke (.asyncStarted request handler) span t)
  ({ request with marks := { request.marks with asyncPending := true } }, t)

end HandlerCoordinator

end RequestSpans
