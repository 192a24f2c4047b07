import RequestSpans.Http.Target
import RequestSpans.Telemetry

set_option autoImplicit false

namespace RequestSpans

-- `tracer?` is the tracer span, which starts when the local span is first
-- entered.
structure LocalSpan where
  parent : Context
  attributes : List Attribute
  tracer? : Option SpanContext
deriving Repr, DecidableEq, Inhabited

namespace LocalSpan

def openFor (level : LogLevel) (component : String) (request : Request) (t : Telemetry) :
    LocalSpan × Telemetry :=
  let tags :=
    [("component", component), ("http.method", request.method),
      ("http.url", Target.absoluteUrl request.uri request.headers),
      ("http.flavor", request.version.flavor)]
  let parent := request.marks.active?.getD t.current
  let span : LocalSpan := ⟨parent, tags.map fun (k, v) => (k, .text v), none⟩
  let t := t.record (.localOpened level (("otel.kind", "internal") :: tags))
  if request.marks.active?.isSome && !t.bridged then
    (span, t.log .debug "request span not joined to the server span"
      [("error", "OpenTelemetry layer not found")])
  else (span, t)

def started (span : LocalSpan) (t : Telemetry) : LocalSpan × Telemetry :=
  if t.bridged && span.tracer?.isNone then
    let (tracer, t) := t.startSpan "request" .internal span.parent span.attributes []
    ({ span with tracer? := some tracer }, t)
  else (span, t)

def enter (span : LocalSpan) (t : Telemetry) : LocalSpan × Telemetry :=
  let (span, t) := span.started t
  match span.tracer? with
  | some tracer => (span, { t.attach (.of tracer) with entered := tracer :: t.entered })
  | none => (span, t)

def exit (span : LocalSpan) (t : Telemetry) : Telemetry :=
  match span.tracer? with
  | some _ => { t.detach with entered := t.entered.tail }
  | none => t

def act (span : LocalSpan) (actions : List SpanAction) (t : Telemetry) : Telemetry :=
  match span.tracer? with
  | some tracer => t.act tracer actions
  | none => t

def onResponse (span : LocalSpan) (level : LogLevel) (latency : String) (status : Status)
    (t : Telemetry) : Telemetry :=
  let (code, mark) : String × SpanStatus :=
    if status.isServerError then ("ERROR", .error "") else ("OK", .ok)
  let number := toString status.code
  let t := span.act [.status mark] (t.record (.localRecorded "otel.status_code" code))
  let t := span.act [.tag ("http.status_code", .text number)]
    (t.record (.localRecorded "http.status_code" number))
  t.log level "finished processing request" [("latency", latency), ("status", number)]

def close (span : LocalSpan) (t : Telemetry) : Telemetry :=
  let (span, t) := span.started (t.record .localClosed)
  match span.tracer? with
  | some tracer => t.endSpan tracer
  | none => t

def holds (span : LocalSpan) : List SpanContext :=
  span.parent.span?.toList ++ span.tracer?.toList

end LocalSpan

end RequestSpans
