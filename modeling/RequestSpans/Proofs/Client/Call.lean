import RequestSpans.Proofs.Schedule
import RequestSpans.Service

set_option autoImplicit false

namespace RequestSpans

namespace ActiveCall

def closing (call : ActiveCall) (signal : Signal) (l : Ledger) : Ledger :=
  ((l.note (call.decorators.milestones (call.hook signal) (some call.span))).close call.span).note
    [.finishing call.span false]

theorem closing_closed (call : ActiveCall) (signal : Signal) (l : Ledger) (before : Nat)
    (unfinished : l.Open call.span before) : (call.closing signal l).Closed call.span (before + 1) := by
  have decorated := call.decorators.open_milestones (call.hook signal) (some call.span) l call.span before unfinished
  exact Ledger.closed_note _ _ _ _ (by simp) (Ledger.close_open _ _ _ decorated)

theorem drop_running (call : ActiveCall) (t : Telemetry) (running : t.isFinished call.span = false) :
    (call.drop t).ledger = t.ledger.close call.span := by
  obtain ⟨first, closed⟩ := t.finish_running call.span running
  unfold drop
  split
  · rename_i later finished
    rw [Telemetry.ledger_log, ← closed, finished]
  · rename_i later finished
    rw [finished] at first
    contradiction

theorem drop_finished (call : ActiveCall) (t : Telemetry) (stopped : t.isFinished call.span = true) :
    (call.drop t).ledger = t.ledger.note [.finishing call.span false] := by
  obtain ⟨again, noted⟩ := t.finish_finished call.span stopped
  unfold drop
  split
  · rename_i later finished
    rw [finished] at again
    contradiction
  · rename_i later finished
    rw [← noted, finished]

theorem terminate_ledger (call : ActiveCall) (signal : Signal) (t : Telemetry) (before : Nat)
    (unfinished : t.ledger.Open call.span before) : (call.terminate signal t).ledger = call.closing signal t.ledger := by
  have noted := call.decorators.ledger_invoke (call.hook signal) (some call.span) t
  have decorated : (call.decorators.invoke (call.hook signal) (some call.span) t).ledger.Open call.span before := by
    rw [noted]
    exact call.decorators.open_milestones _ _ _ call.span before unfinished
  have closed := (Telemetry.finish_running _ call.span (Telemetry.is_finished_open _ call.span before decorated)).2
  have finished := Telemetry.finish_finishes _ call.span before decorated
  rw [terminate, call.drop_finished _ finished, closed, noted, closing]

theorem guard_concludes (call : ActiveCall) (outcome? : Option Outcome) (t : Telemetry) (before : Nat)
    (unfinished : t.ledger.Open call.span before) :
    (call.guard.conclude outcome? t).ledger = call.closing (.settled outcome?) t.ledger := by
  rw [guard, conclude_new]
  exact call.terminate_ledger _ (t.attach (.of call.span)) before unfinished

def EndsWith (call : ActiveCall) (signal : Signal) (before after : Ledger) (ends : Nat) : Prop :=
  after = call.closing signal before ∧ after.Closed call.span ends

theorem closing_ends (call : ActiveCall) (signal : Signal) (l after : Ledger) (before : Nat)
    (unfinished : l.Open call.span before) (same : after = call.closing signal l) :
    call.EndsWith signal l after (before + 1) := by
  refine ⟨same, ?_⟩
  rw [same]
  exact call.closing_closed signal l before unfinished

-- A task does what another does in the context of the call, and ends the call
-- when that is done. If it is never polled, the call is cancelled before the
-- other task is let go.
def Brackets (call : ActiveCall) (task inner : Task) (before : Nat) : Prop :=
  ∀ (meanwhile : Nat → Telemetry → Telemetry) (between : Telemetry), (∀ left, Spares call.span (meanwhile left)) →
    between.ledger.Open call.span before →
      (∀ polls,
        let bare := (Task.scoped (.of call.span) inner).drive meanwhile (polls + 1) between
        let run := task.drive meanwhile (polls + 1) between
        run.1 = bare.1 ∧ call.EndsWith (.settled bare.1) bare.2.ledger run.2.ledger (before + 1)) ∧
      ∃ cancelled : Telemetry, call.EndsWith .cancelled (meanwhile 0 between).ledger cancelled.ledger (before + 1) ∧
        task.drive meanwhile 0 between = (none, inner.drop cancelled) ∧
        (inner.drop cancelled).ledger.Closed call.span (before + 1)

theorem guarded_ends (call : ActiveCall) (inner : Task) (before polls : Nat)
    (meanwhile : Nat → Telemetry → Telemetry) (t : Telemetry)
    (unfinished : ((Task.scoped (.of call.span) inner).drive meanwhile polls t).2.ledger.Open call.span before) :
    let bare := (Task.scoped (.of call.span) inner).drive meanwhile polls t
    let run := (Task.guarded call.guard false inner).drive meanwhile polls t
    run.1 = bare.1 ∧ call.EndsWith (.settled bare.1) bare.2.ledger run.2.ledger (before + 1) := by
  intro bare run
  have concludes : ∀ later : Telemetry, later.ledger = bare.2.ledger →
      (call.guard.conclude bare.1 later).ledger = call.closing (.settled bare.1) bare.2.ledger := by
    intro later reached
    rw [call.guard_concludes bare.1 later before (by rw [reached]; exact unfinished), reached]
  obtain ⟨same, ledger⟩ := Task.drive_guarded meanwhile polls call.guard inner t _ concludes
  exact ⟨same, call.closing_ends _ _ _ before unfinished ledger⟩

theorem instrument_brackets (call : ActiveCall) (inner : Task) (before : Nat) (spares : inner.Spares call.span) :
    call.Brackets (ClientCall.instrument ⟨some call⟩ inner) inner before := by
  intro meanwhile between company unfinished
  constructor
  · intro polls
    have still := spares.driven meanwhile (polls + 1) between before company unfinished
    have ended := call.guarded_ends inner before (polls + 1) meanwhile between still
    simpa only [ClientCall.instrument, Task.drive_guard_first] using ended
  · have reached := company 0 between before unfinished
    have cancelled := call.closing_ends .cancelled _ _ before reached
      (call.guard_concludes none (meanwhile 0 between) before reached)
    refine ⟨call.guard.drop (meanwhile 0 between), cancelled, ?_, spares.dropped _ _ cancelled.2⟩
    simp only [ClientCall.instrument, Task.drive, Task.drop, if_true]

theorem complete_ends (call : ActiveCall) (outcome : Outcome) (before : Nat) (between : Telemetry)
    (unfinished : between.ledger.Open call.span before) :
    let run := (ClientCall.mk (some call)).complete outcome between
    run.1 = outcome ∧ call.EndsWith (.ofOutcome outcome) between.ledger run.2.ledger (before + 1) :=
  ⟨rfl, call.closing_ends _ _ _ before unfinished (call.guard_concludes (some outcome) between before unfinished)⟩

theorem dropped_ends (call : ActiveCall) (before : Nat) (between : Telemetry)
    (unfinished : between.ledger.Open call.span before) :
    ((ClientCall.mk (some call)).drop between).ledger = between.ledger.close call.span ∧
      ((ClientCall.mk (some call)).drop between).ledger.Closed call.span (before + 1) := by
  have closed := call.drop_running between (between.is_finished_open call.span before unfinished)
  refine ⟨closed, ?_⟩
  rw [ClientCall.drop, closed]
  exact Ledger.close_open _ _ _ unfinished

end ActiveCall

namespace ClientInterceptor

structure Starts (interceptor : ClientInterceptor) (request : Request) (t : Telemetry) (call : ActiveCall)
    (opened : Telemetry) : Prop where
  started : interceptor.start request t = (call.request, ⟨some call⟩, opened)
  decorators : call.decorators = interceptor.decorators
  span : call.span = t.nextContext t.current
  opening : opened.ledger = (t.ledger.start call.span t.current.span? []).note
    (interceptor.decorators.milestones (.request call.request) (some call.span))

def fromNext (meanwhile : Nat → Telemetry → Telemetry) (polls left : Nat) (t : Telemetry) : Telemetry :=
  if left ≤ polls then meanwhile left t else t

theorem start_starts (interceptor : ClientInterceptor) (request : Request) (t : Telemetry)
    (enabled : interceptor.enabled = true) : ∃ call opened, interceptor.Starts request t call opened := by
  have opening : ∀ (span : SpanContext) (sent : Request) (before : Telemetry),
      (before.within (.of span) fun t => ((), interceptor.decorators.invoke (.request sent) (some span) t)).2.ledger =
        before.ledger.note (interceptor.decorators.milestones (.request sent) (some span)) := by
    intro span sent before
    simp
  refine ⟨⟨interceptor.decorators, (interceptor.start request t).1, t.nextContext t.current⟩,
    (interceptor.start request t).2.2, ?_, rfl, rfl, ?_⟩
  · simp only [start, enabled, Bool.not_true, Bool.false_eq_true, if_false]
    rfl
  · simp only [start, enabled, Bool.not_true, Bool.false_eq_true, if_false]
    refine (opening _ _ _).trans ?_
    rw [Instrumentation.startSpan, Telemetry.ledger_start_span]
    rfl

theorem starts_open (interceptor : ClientInterceptor) (request : Request) (t : Telemetry) (call : ActiveCall)
    (opened : Telemetry) (starts : interceptor.Starts request t call opened) :
    opened.ledger.Open call.span (t.history.count (.ended call.span)) := by
  rw [starts.opening]
  refine interceptor.decorators.open_milestones _ _ _ call.span _ (Ledger.open_start _ _ _ _ ?_)
  rw [starts.span]
  exact t.next_context_next t.current

theorem execute_ends (interceptor : ClientInterceptor) (request : Request) (t : Telemetry) (call : ActiveCall)
    (opened answered : Telemetry) (send : Request → Telemetry → Option Outcome × Telemetry) (outcome : Outcome)
    (before : Nat) (starts : interceptor.Starts request t call opened)
    (sent : send call.request (opened.attach (.of call.span)) = (some outcome, answered))
    (unfinished : answered.ledger.Open call.span before) :
    let run := interceptor.execute request send t
    run.1 = some outcome ∧ call.EndsWith (.ofOutcome outcome) answered.ledger run.2.ledger (before + 1) := by
  have completed := call.complete_ends outcome before answered.detach unfinished
  simp only [execute, starts.started, Telemetry.within, ClientCall.context, sent]
  exact ⟨congrArg some completed.1, completed.2⟩

theorem call_client (interceptor : ClientInterceptor) (request : Request) (t : Telemetry) (call : ActiveCall)
    (opened after : Telemetry) (below : Service) (inner : Task) (starts : interceptor.Starts request t call opened)
    (called : below.dispatch call.request (opened.attach (.of call.span)) = (some inner, after)) :
    (Service.traceClient interceptor below).dispatch request t = (some (ClientCall.instrument ⟨some call⟩ inner), after.detach) := by
  simp only [Service.dispatch, Service.callClient, starts.started, Telemetry.within, ClientCall.context, called]

theorem poll_call (interceptor : ClientInterceptor) (request : Request) (t : Telemetry) (call : ActiveCall)
    (opened after : Telemetry) (send : Request → Telemetry → Option Work × Telemetry) (work : Work)
    (starts : interceptor.Starts request t call opened)
    (sent : send call.request (opened.attach (.of call.span)) = (some work, after)) :
    (Task.lazyCall interceptor request send).poll t = (Task.guarded call.guard false (.ofWork work)).poll after.detach := by
  simp only [Task.poll, Task.pollCall, starts.started, Telemetry.within, ClientCall.context, sent]
  rfl

theorem drive_call (interceptor : ClientInterceptor) (request : Request) (call : ActiveCall)
    (earlier opened after : Telemetry) (send : Request → Telemetry → Option Work × Telemetry) (work : Work)
    (meanwhile : Nat → Telemetry → Telemetry) (polls : Nat)
    (starts : interceptor.Starts request (meanwhile (polls + 1) earlier) call opened)
    (sent : send call.request (opened.attach (.of call.span)) = (some work, after)) :
    (Task.lazyCall interceptor request send).drive meanwhile (polls + 1) earlier =
      (Task.guarded call.guard false (.ofWork work)).drive (fromNext meanwhile polls) (polls + 1) after.detach := by
  have first := interceptor.poll_call request _ call opened after send work starts sent
  have idle : fromNext meanwhile polls (polls + 1) after.detach = after.detach :=
    if_neg (Nat.not_succ_le_self polls)
  rw [Task.drive, Task.drive, first, idle]
  rcases (Task.guarded call.guard false (.ofWork work)).poll after.detach with ⟨result, later⟩
  cases result with
  | pending rest =>
      refine Task.drive_congr meanwhile (fromNext meanwhile polls) polls rest later ?_
      intro left bound
      funext now
      simp [fromNext, bound]
  | ready outcome => rfl
  | panicked => rfl

theorem exchange_ends (interceptor : ClientInterceptor) (request : Request) (call : ActiveCall)
    (earlier opened after : Telemetry) (send : Request → Telemetry → Option Work × Telemetry) (work : Work)
    (meanwhile : Nat → Telemetry → Telemetry) (polls before : Nat)
    (starts : interceptor.Starts request (meanwhile (polls + 1) earlier) call opened)
    (sent : send call.request (opened.attach (.of call.span)) = (some work, after))
    (unfinished : after.ledger.Open call.span before) (spares : work.Spares call.span)
    (company : ∀ left, left ≤ polls → Spares call.span (meanwhile left)) :
    let bare := (Task.scoped (.of call.span) (.ofWork work)).drive (fromNext meanwhile polls) (polls + 1) after.detach
    let run := (Task.lazyCall interceptor request send).drive meanwhile (polls + 1) earlier
    run.1 = bare.1 ∧ call.EndsWith (.settled bare.1) bare.2.ledger run.2.ledger (before + 1) := by
  have others : ∀ left, Spares call.span (fromNext meanwhile polls left) := by
    intro left now ends reached
    by_cases bound : left ≤ polls
    · simpa only [fromNext, bound, if_true] using company left bound now ends reached
    · simpa only [fromNext, bound, if_false] using reached
  have still := (Task.work_spares work 0 call.span spares).driven (fromNext meanwhile polls) (polls + 1) after.detach before
    others unfinished
  rw [interceptor.drive_call request call earlier opened after send work meanwhile polls starts sent]
  exact call.guarded_ends (.ofWork work) before (polls + 1) _ after.detach still

-- The ways to make the call that an interceptor starts on a request, and the
-- ways in which it is over. `before` counts the ends of its span so far. Those
-- who answer, and the rest of the process, may even end the span themselves;
-- its wrapper is out of their reach, which `Open` and `Spares` ask of them.
structure EndsOnce (interceptor : ClientInterceptor) (request : Request) (t : Telemetry) (call : ActiveCall)
    (opened : Telemetry) (before : Nat) : Prop where
  execute : ∀ (send : Request → Telemetry → Option Outcome × Telemetry) (outcome : Outcome) (answered : Telemetry),
    send call.request (opened.attach (.of call.span)) = (some outcome, answered) → answered.ledger.Open call.span before →
      let run := interceptor.execute request send t
      run.1 = some outcome ∧ call.EndsWith (.ofOutcome outcome) answered.ledger run.2.ledger (before + 1)
  complete : ∀ (outcome : Outcome) (between : Telemetry), between.ledger.Open call.span before →
    let run := (ClientCall.mk (some call)).complete outcome between
    run.1 = outcome ∧ call.EndsWith (.ofOutcome outcome) between.ledger run.2.ledger (before + 1)
  instrument : ∀ inner : Task, inner.Spares call.span → call.Brackets (ClientCall.instrument ⟨some call⟩ inner) inner before
  service : ∀ (below : Service) (inner : Task) (after : Telemetry),
    below.dispatch call.request (opened.attach (.of call.span)) = (some inner, after) →
      after.ledger.Open call.span before → inner.Spares call.span →
        ∃ task, (Service.traceClient interceptor below).dispatch request t = (some task, after.detach) ∧
          after.detach.ledger.Open call.span before ∧ call.Brackets task inner before
  exchange : ∀ (send : Request → Telemetry → Option Work × Telemetry) (work : Work) (earlier after : Telemetry)
    (meanwhile : Nat → Telemetry → Telemetry) (polls : Nat),
    send call.request (opened.attach (.of call.span)) = (some work, after) → after.ledger.Open call.span before →
      work.Spares call.span → (∀ left, left ≤ polls → Spares call.span (meanwhile left)) →
        meanwhile (polls + 1) earlier = t →
          let bare := (Task.scoped (.of call.span) (.ofWork work)).drive (fromNext meanwhile polls) (polls + 1) after.detach
          let run := (Task.lazyCall interceptor request send).drive meanwhile (polls + 1) earlier
          run.1 = bare.1 ∧ call.EndsWith (.settled bare.1) bare.2.ledger run.2.ledger (before + 1)
  dropped : ∀ between : Telemetry, between.ledger.Open call.span before →
    let after := ((ClientCall.mk (some call)).drop between).ledger
    after = between.ledger.close call.span ∧ after.Closed call.span (before + 1)

-- An exchange starts at its first poll, so there `t` is what the process has
-- come to by then.
theorem traced_calls_end_once (interceptor : ClientInterceptor) (request : Request) (t : Telemetry)
    (enabled : interceptor.enabled = true) :
    ∃ call opened, interceptor.Starts request t call opened ∧
      opened.ledger.Open call.span (t.history.count (.ended call.span)) ∧
      interceptor.EndsOnce request t call opened (t.history.count (.ended call.span)) := by
  obtain ⟨call, opened, starts⟩ := interceptor.start_starts request t enabled
  refine ⟨call, opened, starts, interceptor.starts_open request t call opened starts, ?_⟩
  constructor
  case execute =>
    intro send outcome answered sent unfinished
    exact interceptor.execute_ends request t call opened answered send outcome _ starts sent unfinished
  case complete => exact fun outcome between => call.complete_ends outcome _ between
  case instrument => exact fun inner spares => call.instrument_brackets inner _ spares
  case service =>
    intro below inner after called unfinished spares
    exact ⟨_, interceptor.call_client request t call opened after below inner starts called, unfinished,
      call.instrument_brackets inner _ spares⟩
  case exchange =>
    intro send work earlier after meanwhile polls sent unfinished spares company now
    subst now
    exact interceptor.exchange_ends request call earlier opened after send work meanwhile polls _ starts sent unfinished
      spares company
  case dropped => exact call.dropped_ends _

def slowReply : Work := ⟨fun polls t => (if polls < 3 then .pending else .ready (.error ⟨"timed out", []⟩), t)⟩

def reservation : Request := ⟨"POST", ⟨some "http", some "stock", "/reserve"⟩, .http11, ⟨[]⟩, "", .none⟩

theorem traced_calls_end_once_reservation : ∃ call opened,
    (standard ⟨some .silent⟩).Starts reservation (.start .silent false) call opened ∧
    let run := (Task.lazyCall (standard ⟨some .silent⟩) reservation fun _ t => (some slowReply, t)).drive (fun _ t => t) 2
      (.start .silent false)
    run.1 = none ∧ call.EndsWith .cancelled opened.ledger run.2.ledger 1 := by
  obtain ⟨call, opened, starts, unfinished, ends⟩ :=
    traced_calls_end_once (standard ⟨some .silent⟩) reservation (.start .silent false) rfl
  have spared : slowReply.Spares call.span := fun _ _ _ unfinished => unfinished
  obtain ⟨outcome, ended⟩ := ends.exchange (fun _ t => (some slowReply, t)) slowReply _ _ (fun _ t => t) 1 rfl unfinished spared
    (fun _ _ _ _ unfinished => unfinished) rfl
  exact ⟨call, opened, starts, outcome, ended⟩

end ClientInterceptor

end RequestSpans
