import RequestSpans.Draft
import RequestSpans.Scenario.Setup
import RequestSpans.Service

set_option autoImplicit false

namespace RequestSpans.Scenario

inductive Ending where
  | status (code : Nat)
  | fault (fault : Fault)
  | abandoned
deriving Repr, DecidableEq, Inhabited

namespace Ending

def check : Ending → Except DraftError Signal
  | .status code => (ReplyDraft.checkStatus code).map fun status => .success ⟨status, .empty, ""⟩
  | .fault cause => .ok (.failure cause)
  | .abandoned => .ok .cancelled

end Ending

def namedConfig (component : String) : TracingConfig :=
  { TracingConfig.default with server := ⟨true, component⟩, client := ⟨true, component⟩ }

namespace Single

def instrumentation : Instrumentation := PropagatorChoice.own.instrumentation

def endedSpans (t : Telemetry) : List Span := t.journal.filterMap Entry.exported?

def boundary [Pattern.Engine] (component? : Option String) : Except BuildError ServerBoundary :=
  match component? with
  | none => .ok (.standard instrumentation)
  | some component => ServerBoundary.ofConfig instrumentation (namedConfig component) []

def interceptor (component? : Option String) : ClientInterceptor :=
  match component? with
  | none => .standard instrumentation
  | some component => .ofConfig instrumentation (namedConfig component)

def telemetry : Telemetry := .start .silent false

def inbound (boundary : ServerBoundary) (draft : RequestDraft) (ending : Ending) :
    Except DraftError (List Span) := do
  let request ← draft.check
  let signal ← ending.check
  let (_, request, t) := boundary.enter request telemetry
  .ok (endedSpans ((Service.serverTerminal boundary request).fire signal t))

def outbound (interceptor : ClientInterceptor) (draft : RequestDraft) (ending : Ending) :
    Except DraftError (List Span) := do
  let request ← draft.check
  let signal ← ending.check
  let (_, call, t) := interceptor.start request telemetry
  match signal with
  | .success response => .ok (endedSpans (call.complete (.ok response) t).2)
  | .failure cause => .ok (endedSpans (call.complete (.error cause) t).2)
  | .cancelled => .ok (endedSpans (call.drop t))

end Single

end RequestSpans.Scenario
