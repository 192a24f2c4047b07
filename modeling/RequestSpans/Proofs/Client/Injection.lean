import RequestSpans.Proofs.Hops

set_option autoImplicit false

namespace RequestSpans

open Text (lower)

structure Headers.Rewritten (before after : Headers) (written : List (String × String)) : Prop where
  lowered : ∀ field ∈ written, lower field.1 = field.1
  single : ∀ field ∈ written, after.values field.1 = [octets field.2]
  others : ∀ name, lower name ∉ written.map (·.1) → after.values name = before.values name

namespace Headers

end Headers

namespace Propagator

-- The header fields that are written for a span: none unless it has an identity.
-- Vendor members that no field can hold are left out.
def fields (span : SpanContext) : List (String × String) :=
  if span.isValid then
    (if Headers.isValue span.state.render then [("tracestate", span.state.render)] else [])
      ++ [("traceparent", renderParent span)]
  else []

end Propagator

namespace ClientInterceptor

-- Below a span without the number of a trace the propagator writes nothing, and all
-- header fields stay as they are; in any other context it names the call's span.
structure Sends (interceptor : ClientInterceptor) (request : Request) (t : Telemetry) (call : ActiveCall)
    (opened : Telemetry) : Prop where
  starts : interceptor.Starts request t call opened
  below : opened.Places call.span .client t.current.span?
  untouched : call.request = { request with headers := call.request.headers }
  rewritten : request.headers.Rewritten call.request.headers (Propagator.fields call.span)
  written : ∀ field ∈ Propagator.fields call.span,
    field = ("traceparent", Propagator.renderParent call.span) ∨ field = ("tracestate", call.span.state.render)
  parent : ("traceparent", Propagator.renderParent call.span) ∈ Propagator.fields call.span ↔
    ∀ span, t.current.span? = some span → span.trace ≠ 0
  state : call.span.state.Inbound → (∀ span, t.current.span? = some span → span.trace ≠ 0) →
    ("tracestate", call.span.state.render) ∈ Propagator.fields call.span
  readable : Hop.Tellable t.current → t.traces + 1 < Nat.pow 2 128 ∧ t.spans.length + 1 < Nat.pow 2 64 →
    ∀ state, Propagator.parent? (Propagator.renderParent call.span) state =
      some { call.span with remote := true, state := state }
  undecorated : ∀ others, ({ interceptor with decorators := others }.start request t).1 = call.request

end ClientInterceptor

end RequestSpans
