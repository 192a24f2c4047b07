import RequestSpans.Client.Interceptor
import RequestSpans.LocalSpan

set_option autoImplicit false

namespace RequestSpans

inductive Progress where
  | pending
  | ready (outcome : Outcome)
  | panicked

structure Work where
  poll : Nat → Telemetry → Progress × Telemetry

inductive Task where
  | leaf (work : Work) (polls : Nat)
  | scoped (context : Context) (inner : Task)
  -- A task under a guard, in the guard's context. While `guardFirst`, dropping
  -- it fires the guard before the inner task is dropped, otherwise after.
  | guarded (guard : TerminalGuard) (guardFirst : Bool) (inner : Task)
  -- An outbound call that starts when it is first polled. A panic of `send` is
  -- its `none`.
  | lazyCall (interceptor : ClientInterceptor) (request : Request)
      (send : Request → Telemetry → Option Work × Telemetry)
  | localized (span : LocalSpan) (inner : Task)

inductive Polled where
  | pending (rest : Task)
  | ready (outcome : Outcome)
  | panicked

namespace Task

def ofWork (work : Work) : Task := .leaf work 0

def propagate (context : Context) (handler : Terminal) (task : Task) : Task :=
  .guarded (.new context handler) false task

def pollWork (work : Work) (polls : Nat) (t : Telemetry) : Polled × Telemetry :=
  match work.poll polls t with
  | (.pending, t) => (.pending (.leaf work (polls + 1)), t)
  | (.ready outcome, t) => (.ready outcome, t)
  | (.panicked, t) => (.panicked, t)

def settle (guard : TerminalGuard) : Polled × Telemetry → Polled × Telemetry
  | (.pending rest, t) => (.pending (.guarded guard false rest), t)
  | (.ready outcome, t) => (.ready outcome, (guard.complete outcome t).2.2)
  | (.panicked, t) => (.panicked, guard.drop t)

def pollCall (interceptor : ClientInterceptor) (request : Request)
    (send : Request → Telemetry → Option Work × Telemetry) (t : Telemetry) :
    Polled × Telemetry :=
  let (request, call, t) := interceptor.start request t
  let (work?, t) := t.within (call.context t) fun t => send request t
  match work?, call.active? with
  | none, _ => (.panicked, call.drop t)
  | some work, none => pollWork work 0 t
  | some work, some active =>
    settle active.guard (t.within (.of active.span) fun t => pollWork work 0 t)

def settleLocal (span : LocalSpan) : Polled × Telemetry → Polled × Telemetry
  | (.pending rest, t) => (.pending (.localized span rest), span.exit t)
  | (.ready (.ok response), t) =>
    let t := span.onResponse .info "*" response.status t
    (.ready (.ok { response with body := "" }), span.close (span.exit t))
  | (.ready (.error fault), t) => (.ready (.error fault), span.close (span.exit t))
  | (.panicked, t) => (.panicked, span.close (span.exit t))

def poll : Task → Telemetry → Polled × Telemetry
  | .leaf work polls, t => pollWork work polls t
  | .scoped context inner, t =>
    match t.within context fun t => inner.poll t with
    | (.pending rest, t) => (.pending (.scoped context rest), t)
    | other => other
  | .guarded guard _ inner, t => settle guard (t.within guard.context fun t => inner.poll t)
  | .lazyCall interceptor request send, t => pollCall interceptor request send t
  | .localized span inner, t =>
    let (span, t) := span.enter t
    settleLocal span (inner.poll t)

def drop : Task → Telemetry → Telemetry
  | .leaf _ _, t => t
  | .scoped _ inner, t => inner.drop t
  | .guarded guard guardFirst inner, t =>
    if guardFirst then inner.drop (guard.drop t) else guard.drop (inner.drop t)
  | .lazyCall _ _ _, t => t
  | .localized span inner, t => span.close (inner.drop t)

def holds : Task → List SpanContext
  | .leaf _ _ => []
  | .scoped context inner => context.span?.toList ++ inner.holds
  | .guarded guard _ inner => guard.holds ++ inner.holds
  | .lazyCall _ request _ => request.marks.spans
  | .localized span inner => span.holds ++ inner.holds

end Task

-- Ends a call when a task does; dropping the task before its first poll cancels
-- the call before the task is dropped.
def ClientCall.instrument (call : ClientCall) (task : Task) : Task :=
  match call.active? with
  | some active => .guarded active.guard true task
  | none => task

end RequestSpans
