import RequestSpans.Proofs.Hops

set_option autoImplicit false

namespace RequestSpans

def Work.attend (work : Work) (context : Context) (meanwhile : Nat → Telemetry → Telemetry) :
    Nat → Nat → Telemetry → List Telemetry × Option Outcome × Telemetry
  | 0, _, t => ([], none, meanwhile 0 t)
  | left + 1, polls, t =>
      let found := (meanwhile (left + 1) t).attach context
      match work.poll polls found with
      | (.pending, after) =>
        let (later, rest) := work.attend context meanwhile left (polls + 1) after.detach
        (found :: later, rest)
      | (.ready outcome, after) => ([found], some outcome, after.detach)
      | (.panicked, after) => ([found], none, after.detach)

section Attended

variable (work : Work) (context : Context) (meanwhile : Nat → Telemetry → Telemetry)

theorem drive_attended (left polls : Nat) (t : Telemetry) :
    (Task.scoped context (.leaf work polls)).drive meanwhile left t = (work.attend context meanwhile left polls t).2 := by
  induction left generalizing polls t with
  | zero => rfl
  | succ left ih =>
      rcases step : work.poll polls ((meanwhile (left + 1) t).attach context) with ⟨progress, after⟩
      cases progress with
      | pending =>
          simp only [Task.drive, Task.poll, Task.pollWork, Telemetry.within, Work.attend, step]
          exact ih (polls + 1) after.detach
      | ready outcome => simp only [Task.drive, Task.poll, Task.pollWork, Telemetry.within, Work.attend, step]
      | panicked => simp only [Task.drive, Task.poll, Task.pollWork, Telemetry.within, Work.attend, step]

theorem attend_current (left polls : Nat) (t : Telemetry) :
    ∀ sight ∈ (work.attend context meanwhile left polls t).1, sight.current = context := by
  induction left generalizing polls t with
  | zero => simp [Work.attend]
  | succ left ih =>
      rcases step : work.poll polls ((meanwhile (left + 1) t).attach context) with ⟨progress, after⟩
      have here : ((meanwhile (left + 1) t).attach context).current = context := rfl
      cases progress with
      | pending =>
          simp only [Work.attend, step, List.forall_mem_cons]
          exact ⟨here, ih (polls + 1) after.detach⟩
      | ready outcome => simpa only [Work.attend, step, List.forall_mem_singleton] using here
      | panicked => simpa only [Work.attend, step, List.forall_mem_singleton] using here

end Attended

namespace ClientInterceptor

variable (interceptor : ClientInterceptor) (request : Request) (send : Request → Telemetry → Option Work × Telemetry)

-- An exchange that is polled, and after its first poll up to `polls` times more.
-- What `send` made of the request in the first poll decides all that follows: a
-- panic ends the span without another round, and otherwise the call is over when
-- the work is.
structure Exchanges (meanwhile : Nat → Telemetry → Telemetry) (polls : Nat) (t : Telemetry) (call : ActiveCall)
    (opened : Telemetry) : Prop where
  starts : interceptor.Starts request (meanwhile (polls + 1) t) call opened
  below : opened.Places call.span .client (meanwhile (polls + 1) t).current.span?
  panicked : ∀ after, send call.request (opened.attach (.of call.span)) = (none, after) →
    (Task.lazyCall interceptor request send).drive meanwhile (polls + 1) t =
      (none, (ClientCall.mk (some call)).drop after.detach)
  sent : ∀ work after, send call.request (opened.attach (.of call.span)) = (some work, after) →
    let attended := work.attend (.of call.span) (fromNext meanwhile polls) (polls + 1) 0 after.detach
    (Task.lazyCall interceptor request send).drive meanwhile (polls + 1) t =
        (attended.2.1, call.guard.conclude attended.2.1 attended.2.2) ∧
      ∀ sight ∈ opened.attach (.of call.span) :: attended.1, sight.current = .of call.span

theorem poll_call_panicked (t : Telemetry) (call : ActiveCall) (opened after : Telemetry)
    (starts : interceptor.Starts request t call opened)
    (sent : send call.request (opened.attach (.of call.span)) = (none, after)) :
    (Task.lazyCall interceptor request send).poll t = (.panicked, (ClientCall.mk (some call)).drop after.detach) := by
  simp only [Task.poll, Task.pollCall, starts.started, Telemetry.within, ClientCall.context, sent]

theorem exchange_waits_for_poll (meanwhile : Nat → Telemetry → Telemetry) (t : Telemetry)
    (enabled : interceptor.enabled = true) :
    (Task.lazyCall interceptor request send).drop t = t ∧
      (Task.lazyCall interceptor request send).drive meanwhile 0 t = (none, meanwhile 0 t) ∧
      ∀ polls, ∃ call opened, interceptor.Exchanges request send meanwhile polls t call opened := by
  refine ⟨rfl, rfl, ?_⟩
  intro polls
  obtain ⟨call, opened, starts⟩ := interceptor.start_starts request (meanwhile (polls + 1) t) enabled
  have placed := interceptor.start_call_places request (meanwhile (polls + 1) t) enabled
  rw [starts.started, ← starts.span] at placed
  refine ⟨call, opened, starts, placed, ?_, ?_⟩
  · intro after sent
    exact Task.drive_over meanwhile polls _ t _ none
      (interceptor.poll_call_panicked request send _ call opened after starts sent)
  · intro work after sent
    constructor
    · have attended := drive_attended work (.of call.span) (fromNext meanwhile polls) (polls + 1) 0 after.detach
      rw [interceptor.drive_call request call t opened after send work meanwhile polls starts sent, ← attended]
      exact Task.drive_guarded_alone (fromNext meanwhile polls) (polls + 1) call.guard (.ofWork work) after.detach
    · rw [List.forall_mem_cons]
      exact ⟨rfl, attend_current work (.of call.span) (fromNext meanwhile polls) (polls + 1) 0 after.detach⟩

theorem exchange_waits_for_poll_reservation :
    let customer : SpanContext := ⟨7, 7, true, true, .empty⟩
    let clerk : SpanContext := ⟨8, 8, true, true, .empty⟩
    let stock : SpanContext := ⟨9, 9, true, true, .empty⟩
    let made := (Telemetry.start .silent false).attach (.of customer)
    let meanwhile := fun left t => Telemetry.attach t (.of (if left = 5 then clerk else stock))
    let send := fun (_ : Request) (t : Telemetry) => (some slowReply, t)
    ∃ call opened, (standard ⟨some .silent⟩).Exchanges reservation send meanwhile 4 made call opened ∧
      opened.Places call.span .client (some clerk) ∧
      ((Task.lazyCall (standard ⟨some .silent⟩) reservation send).drive meanwhile 5 made).1 =
        some (.error ⟨"timed out", []⟩) := by
  intro customer clerk stock made meanwhile send
  obtain ⟨call, opened, exchanges⟩ :=
    (exchange_waits_for_poll (standard ⟨some .silent⟩) reservation send meanwhile made rfl).2.2 4
  refine ⟨call, opened, exchanges, exchanges.below, ?_⟩
  rw [(exchanges.sent slowReply _ rfl).1]
  rfl

end ClientInterceptor

end RequestSpans
