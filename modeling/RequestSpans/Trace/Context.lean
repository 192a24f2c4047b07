import RequestSpans.Text.Numeral
import RequestSpans.Trace.State

set_option autoImplicit false

namespace RequestSpans

-- `remote` tells a context read from a message from one of a span started here.
structure SpanContext where
  trace : Nat
  span : Nat
  sampled : Bool
  remote : Bool
  state : TraceState
deriving Repr, DecidableEq, Inhabited

namespace SpanContext

def spanHex (context : SpanContext) : String := String.ofList (Text.hex 16 context.span)

def traceHex (context : SpanContext) : String := String.ofList (Text.hex 32 context.trace)

def isValid (context : SpanContext) : Bool := context.trace != 0 && context.span != 0

end SpanContext

structure Context where
  span? : Option SpanContext
deriving Repr, DecidableEq, Inhabited

namespace Context

def empty : Context := ⟨none⟩

def of (span : SpanContext) : Context := ⟨some span⟩

end Context

structure Sampling where
  sampled : Bool
  state : TraceState
deriving Repr, DecidableEq, Inhabited

-- What a tracer settles about a new span, by the span above it and the trace.
abbrev Sampler := Option SpanContext → Nat → Sampling

namespace Sampler

def parentBased : Sampler
  | some above, _ => ⟨above.sampled, above.state⟩
  | none, _ => ⟨true, .empty⟩

end Sampler

end RequestSpans
