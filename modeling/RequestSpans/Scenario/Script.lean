import RequestSpans.Draft
import RequestSpans.Service

set_option autoImplicit false

namespace RequestSpans.Scenario

structure WorkScript where
  label : String
  pending : Nat
  reply : Outcome
  panics : Bool
  outbound? : Option Request

namespace WorkScript

def accepted : Outcome := .ok ⟨.ok, .empty, ""⟩

def callOut (script : WorkScript) (interceptor : ClientInterceptor) (t : Telemetry) : Telemetry :=
  match script.outbound? with
  | some request => (interceptor.execute request (fun _ t => (some accepted, t)) t).2
  | none => t

def poll (script : WorkScript) (interceptor : ClientInterceptor) (polls : Nat) (t : Telemetry) :
    Progress × Telemetry :=
  let t := t.record (.polled script.label t.current)
  if polls < script.pending then (.pending, t)
  else
    let t := script.callOut interceptor t
    if script.panics then (.panicked, t) else (.ready script.reply, t)

def work (script : WorkScript) (interceptor : ClientInterceptor) : Work :=
  ⟨script.poll interceptor⟩

end WorkScript

structure ServiceScript where
  work : WorkScript
  keep? : Option String
  callPanics : Bool

namespace ServiceScript

def serve (script : ServiceScript) (interceptor : ClientInterceptor) : Serve :=
  fun ready request t =>
    let finished? := request.marks.wrapper?.map t.isFinished
    let t := t.record (.received request finished? ready t.current script.keep?)
    let t := if script.keep?.isSome then t.hold request.marks.spans else t
    if script.callPanics then (none, t) else (some (script.work.work interceptor), t)

end ServiceScript

def recorder (name : String) : Terminal :=
  ⟨fun signal t => t.record (.terminated name signal t.current), []⟩

def noteSent (request : Request) (t : Telemetry) : Telemetry :=
  t.record (.sent request t.current)

end RequestSpans.Scenario
