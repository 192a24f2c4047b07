import RequestSpans.Telemetry
import RequestSpans.Text.Quoted

set_option autoImplicit false

namespace RequestSpans

-- Without a propagator of its own, the one installed for the whole process is
-- used.
structure Instrumentation where
  pinned? : Option Propagator
deriving Repr, DecidableEq, Inhabited

namespace Instrumentation

def propagator (inst : Instrumentation) (t : Telemetry) : Propagator :=
  inst.pinned?.getD t.installed

def inject (inst : Instrumentation) (context : Context) (headers : Headers) (t : Telemetry) :
    Headers :=
  (inst.propagator t).inject context headers

def extract (inst : Instrumentation) (headers : Headers) (t : Telemetry) : Context :=
  (inst.propagator t).extract t.current headers

def startSpan (_inst : Instrumentation) (name : String) (kind : SpanKind) (parent : Context)
    (links : List SpanContext) (t : Telemetry) : SpanContext × Telemetry :=
  t.startSpan name kind parent [("span.kind", .text kind.tag)] links

def debug (inst : Instrumentation) : String :=
  let propagator := if inst.pinned?.isSome then "custom" else "global"
  "Instrumentation \x7b propagator: " ++ Text.Quoted.encode propagator ++ " \x7d"

end Instrumentation

end RequestSpans
