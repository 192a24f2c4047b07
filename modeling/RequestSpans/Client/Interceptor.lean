import RequestSpans.Client.Tags
import RequestSpans.Config.Basic
import RequestSpans.Instrumentation
import RequestSpans.Terminal

set_option autoImplicit false

namespace RequestSpans

structure ClientInterceptor where
  instrumentation : Instrumentation
  decorators : DecoratorChain
  enabled : Bool

structure ActiveCall where
  decorators : DecoratorChain
  request : Request
  span : SpanContext

structure ClientCall where
  active? : Option ActiveCall

namespace ActiveCall

def drop (call : ActiveCall) (t : Telemetry) : Telemetry :=
  match t.finish call.span with
  | (true, t) => t.log .debug "client call dropped before completion" []
  | (false, t) => t

def hook (call : ActiveCall) : Signal → Hook
  | .success response => .response call.request response
  | .failure fault => .error call.request fault
  | .cancelled => .cancel call.request

def terminate (call : ActiveCall) (signal : Signal) (t : Telemetry) : Telemetry :=
  let t := call.decorators.invoke (call.hook signal) (some call.span) t
  call.drop (t.finish call.span).2

def terminal (call : ActiveCall) : Terminal :=
  ⟨call.terminate, call.span :: call.request.marks.spans⟩

def guard (call : ActiveCall) : TerminalGuard := .new (.of call.span) call.terminal

end ActiveCall

namespace ClientCall

def isTraced (call : ClientCall) : Bool := call.active?.isSome

def context (call : ClientCall) (t : Telemetry) : Context :=
  match call.active? with
  | some active => .of active.span
  | none => t.current

def complete (call : ClientCall) (outcome : Outcome) (t : Telemetry) : Outcome × Telemetry :=
  match call.active? with
  | some active => (outcome, (active.guard.complete outcome t).2.2)
  | none => (outcome, t)

def drop (call : ClientCall) (t : Telemetry) : Telemetry :=
  match call.active? with
  | some active => active.drop t
  | none => t

def holds (call : ClientCall) : List SpanContext :=
  match call.active? with
  | some active => active.span :: active.request.marks.spans
  | none => []

end ClientCall

namespace ClientInterceptor

def standard (instrumentation : Instrumentation) : ClientInterceptor :=
  ⟨instrumentation, ⟨[ClientTags.decorator "http-client"]⟩, true⟩

def ofConfig (instrumentation : Instrumentation) (config : TracingConfig) : ClientInterceptor :=
  ⟨instrumentation, ⟨[ClientTags.decorator config.client.component]⟩, config.clientEnabled⟩

def start (interceptor : ClientInterceptor) (request : Request) (t : Telemetry) :
    Request × ClientCall × Telemetry :=
  if !interceptor.enabled then (request, ⟨none⟩, t)
  else
    let inst := interceptor.instrumentation
    let (span, t) := inst.startSpan request.method .client t.current [] t
    let headers := inst.inject (.of span) request.headers t
    let request := { request with headers := headers }
    let ((), t) := t.within (.of span) fun t =>
      ((), interceptor.decorators.invoke (.request request) (some span) t)
    (request, ⟨some ⟨interceptor.decorators, request, span⟩⟩, t)

-- Makes a blocking call. A panic of `send`, its `none`, cancels the call.
def execute (interceptor : ClientInterceptor) (request : Request)
    (send : Request → Telemetry → Option Outcome × Telemetry) (t : Telemetry) :
    Option Outcome × Telemetry :=
  let (request, call, t) := interceptor.start request t
  let (outcome?, t) := t.within (call.context t) fun t => send request t
  match outcome?, call.active? with
  | some outcome, _ =>
    let (outcome, t) := call.complete outcome t
    (some outcome, t)
  | none, some active => (none, active.guard.drop t)
  | none, none => (none, t)

def debug (interceptor : ClientInterceptor) : String :=
  "ClientInterceptor \x7b instrumentation: " ++ interceptor.instrumentation.debug
    ++ ", decorators: " ++ Text.Quoted.encodeList interceptor.decorators.names
    ++ ", enabled: " ++ toString interceptor.enabled ++ " \x7d"

end ClientInterceptor

end RequestSpans
