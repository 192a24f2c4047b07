import RequestSpans.Journal
import RequestSpans.Trace.Propagation

/-!
The state that tracing works on: the spans started so far, the contexts attached by the running
code, and the journal. Spans are numbered from one in order of start, and so are traces.
-/
set_option autoImplicit false

namespace RequestSpans

-- `ambient` holds the attached contexts, innermost first; `entered` the tracer
-- spans of the local spans being entered; `reported` the coordinators that have
-- complained about a missing server span; `held` the spans that someone besides
-- the running operation still holds.
structure Telemetry where
  installed : Propagator
  bridged : Bool
  sampler : Sampler
  traces : Nat
  spans : List Span
  ambient : List Context
  entered : List SpanContext
  reported : List String
  held : List Nat
  journal : List Entry

namespace Telemetry

def start (installed : Propagator) (bridged : Bool) (sampler : Sampler := .parentBased) : Telemetry :=
  ⟨installed, bridged, sampler, 0, [], [], [], [], [], []⟩

def record (t : Telemetry) (entry : Entry) : Telemetry :=
  { t with journal := t.journal ++ [entry] }

def current (t : Telemetry) : Context := t.ambient.headD .empty

def attach (t : Telemetry) (context : Context) : Telemetry :=
  { t with ambient := context :: t.ambient }

def detach (t : Telemetry) : Telemetry := { t with ambient := t.ambient.tail }

def within {α : Type} (t : Telemetry) (context : Context) (step : Telemetry → α × Telemetry) :
    α × Telemetry :=
  let (result, after) := step (t.attach context)
  (result, after.detach)

def span? (t : Telemetry) (context : SpanContext) : Option Span :=
  if context.remote || context.span = 0 then none else t.spans[context.span - 1]?

def alter (t : Telemetry) (context : SpanContext) (change : Span → Span) : Telemetry :=
  if context.remote || context.span = 0 then t
  else { t with spans := t.spans.modify (context.span - 1) change }

def update (t : Telemetry) (context : SpanContext) (change : Span → Span) : Telemetry :=
  t.alter context fun span => if span.isRecording then change span else span

def isRecording (t : Telemetry) (context : SpanContext) : Bool :=
  (t.span? context).any Span.isRecording

def act (t : Telemetry) (context : SpanContext) (actions : List SpanAction) : Telemetry :=
  actions.foldl (fun t action => t.update context fun span => action.apply span) t

def log (t : Telemetry) (level : LogLevel) (message : String) (fields : List (String × String)) :
    Telemetry :=
  let t := t.record (.logged ⟨level, message, fields⟩)
  match t.entered with
  | [] => t
  | span :: _ =>
    let event : SpanEvent :=
      ⟨message, ("level", .text level.name.toUpper) :: fields.map fun (k, v) => (k, .text v)⟩
    let t := t.update span fun s => s.addEvent event
    if level = .error then t.update span fun s => s.setStatus (.error "") else t

-- The trace of the span above is kept, be it valid or not.
def nextTrace (t : Telemetry) (parent : Context) : Nat :=
  match parent.span? with
  | some above => above.trace
  | none => t.traces + 1

def nextContext (t : Telemetry) (parent : Context) : SpanContext :=
  let trace := t.nextTrace parent
  let sampling := t.sampler parent.span? trace
  ⟨trace, t.spans.length + 1, sampling.sampled, false, sampling.state⟩

def startSpan (t : Telemetry) (name : String) (kind : SpanKind) (parent : Context)
    (attributes : List Attribute) (links : List SpanContext) : SpanContext × Telemetry :=
  let context := t.nextContext parent
  let span : Span :=
    { name := name, kind := kind, context := context, parent? := parent.span?,
      attributes := attributes, droppedAttributes := 0, events := [], droppedEvents := 0,
      links := links.take Span.limit, status := .unset, finished := false, ended := false }
  (context,
    { t with
      traces := if parent.span?.isSome then t.traces else t.traces + 1
      spans := t.spans ++ [span] }.record (.started span))

def endSpan (t : Telemetry) (context : SpanContext) : Telemetry :=
  match t.span? context with
  | none => t
  | some span =>
    if span.ended then t
    else
      let span := { span with ended := true }
      { t with spans := t.spans.set (context.span - 1) span }.record (.ended span)

def isFinished (t : Telemetry) (context : SpanContext) : Bool :=
  (t.span? context).any (·.finished)

def finish (t : Telemetry) (context : SpanContext) : Bool × Telemetry :=
  if t.isFinished context then
    (false, (t.record (.finishing context false)).log .trace "span already finished"
      [("span_id", context.spanHex)])
  else
    let t := (t.record (.finishing context true)).alter context fun span =>
      { span with finished := true }
    (true, t.endSpan context)

def hold (t : Telemetry) (spans : List SpanContext) : Telemetry :=
  { t with held := t.held ++ (spans.filter fun span => !span.remote).map (·.span) }

def release (t : Telemetry) (context : SpanContext) : Telemetry :=
  if t.held.contains context.span then t else t.endSpan context

def releaseUnheld (t : Telemetry) : Telemetry :=
  t.spans.foldl (fun t span => t.release span.context) t

end Telemetry

namespace DecoratorChain

def runOne (hook : Hook) (span? : Option SpanContext) (t : Telemetry) (decorator : Decorator) :
    Telemetry :=
  let reaction := decorator.react hook
  let sight? := span?.map fun span => (⟨span, t.current, t.isRecording span⟩ : Sight)
  let t := t.record (.called decorator.name decorator.observed hook sight?)
  let t := match span? with
    | some span => t.act span reaction.actions
    | none => t
  match reaction.panic? with
  | none => t
  | some payload =>
    t.log .error "span decorator failed"
      [("decorator", decorator.name), ("hook", hook.name), ("cause", payload.message)]

def invoke (chain : DecoratorChain) (hook : Hook) (span? : Option SpanContext) (t : Telemetry) :
    Telemetry :=
  chain.decorators.foldl (runOne hook span?) (t.record (.round hook span?))

end DecoratorChain

end RequestSpans
