import RequestSpans.Proofs.Schedule

set_option autoImplicit false

namespace RequestSpans

def Terminal.fireIn (handler : Terminal) (context : Context) (signal : Signal) (t : Telemetry) : Telemetry :=
  (handler.fire signal (t.attach context)).detach

def Telemetry.abandoned (t : Telemetry) : Telemetry := t.log .debug "traced future dropped before completion" []

namespace TerminalGuard

inductive Call where
  | complete (outcome : Outcome)
  | cancel
  | signal (signal : Signal)

namespace Call

def given : Call → Signal
  | .complete outcome => .ofOutcome outcome
  | .cancel => .cancelled
  | .signal told => told

def make : Call → TerminalGuard → Telemetry → Bool × TerminalGuard × Telemetry
  | .complete outcome, guard, t => guard.complete outcome t
  | .cancel, guard, t => guard.cancel t
  | .signal told, guard, t => guard.signal told t

theorem make_signal (call : Call) (guard : TerminalGuard) (t : Telemetry) :
    call.make guard t = guard.signal call.given t := by
  cases call <;> rfl

end Call

structure Turn where
  meanwhile : Telemetry → Telemetry
  call : Call

def live (last : Telemetry → Telemetry) : List Turn → TerminalGuard → Telemetry → List Bool × Telemetry
  | [], guard, t => ([], guard.drop (last t))
  | turn :: rest, guard, t =>
      let (first, guard, t) := turn.call.make guard (turn.meanwhile t)
      let (others, t) := live last rest guard t
      (first :: others, t)

def elapse (turns : List Turn) (t : Telemetry) : Telemetry := turns.foldl (fun t turn => turn.meanwhile t) t

section Guard

variable (context : Context) (handler : Terminal)

theorem signal_armed (signal : Signal) (t : Telemetry) :
    (TerminalGuard.new context handler).signal signal t = (true, ⟨context, none⟩, handler.fireIn context signal t) := rfl

theorem signal_spent (signal : Signal) (t : Telemetry) :
    (TerminalGuard.mk context none).signal signal t = (false, ⟨context, none⟩, t) := rfl

theorem drop_armed (t : Telemetry) :
    (TerminalGuard.new context handler).drop t = (handler.fireIn context .cancelled t).abandoned := rfl

theorem drop_spent (t : Telemetry) : (TerminalGuard.mk context none).drop t = t := rfl

theorem live_uncalled (last : Telemetry → Telemetry) (t : Telemetry) :
    live last [] (.new context handler) t = ([], (handler.fireIn context .cancelled (last t)).abandoned) := by
  rw [live, drop_armed]

theorem live_spent (last : Telemetry → Telemetry) (turns : List Turn) (t : Telemetry) :
    live last turns ⟨context, none⟩ t = (turns.map fun _ => false, last (elapse turns t)) := by
  induction turns generalizing t with
  | nil => simp only [live, drop_spent, elapse, List.map_nil, List.foldl_nil]
  | cons turn rest ih =>
      simp only [live, Call.make_signal, signal_spent, ih, elapse, List.map_cons, List.foldl_cons]

theorem live_armed (last : Telemetry → Telemetry) (first : Turn) (later : List Turn) (t : Telemetry) :
    live last (first :: later) (.new context handler) t =
      (true :: later.map fun _ => false,
        last (elapse later (handler.fireIn context first.call.given (first.meanwhile t)))) := by
  simp only [live, Call.make_signal, signal_armed, live_spent]

end Guard

end TerminalGuard

@[simp]
theorem Signal.of_outcome_success (outcome : Outcome) (response : Response) :
    Signal.ofOutcome outcome = .success response ↔ outcome = .ok response := by
  cases outcome <;> simp [ofOutcome]

@[simp]
theorem Signal.of_outcome_failure (outcome : Outcome) (fault : Fault) :
    Signal.ofOutcome outcome = .failure fault ↔ outcome = .error fault := by
  cases outcome <;> simp [ofOutcome]

@[simp]
theorem Signal.of_outcome_cancelled (outcome : Outcome) : Signal.ofOutcome outcome ≠ .cancelled := by
  cases outcome <;> simp [ofOutcome]

inductive Fate where
  | resolved (outcome : Outcome)
  | panicked
  | dropped

namespace Fate

def outcome? : Fate → Option Outcome
  | .resolved outcome => some outcome
  | .panicked => none
  | .dropped => none

def signal : Fate → Signal
  | .resolved outcome => .ofOutcome outcome
  | .panicked => .cancelled
  | .dropped => .cancelled

-- A task without an outcome has had its guard dropped.
def remark : Fate → Telemetry → Telemetry
  | .resolved _, t => t
  | .panicked, t => t.abandoned
  | .dropped, t => t.abandoned

theorem resolved_iff (fate : Fate) (outcome : Outcome) :
    fate = .resolved outcome ↔ fate.outcome? = some outcome := by
  cases fate <;> simp [outcome?]

theorem success_iff (fate : Fate) (response : Response) :
    fate.signal = .success response ↔ fate = .resolved (.ok response) := by
  cases fate <;> simp [signal]

theorem failure_iff (fate : Fate) (fault : Fault) : fate.signal = .failure fault ↔ fate = .resolved (.error fault) := by
  cases fate <;> simp [signal]

theorem cancelled_iff (fate : Fate) : fate.signal = .cancelled ↔ fate = .dropped ∨ fate = .panicked := by
  cases fate <;> simp [signal]

end Fate

theorem TerminalGuard.conclude_fate (context : Context) (handler : Terminal) (fate : Fate) (t : Telemetry) :
    (TerminalGuard.new context handler).conclude fate.outcome? t =
      fate.remark (handler.fireIn context fate.signal t) := by
  cases fate <;> rfl

namespace Task

def fate (meanwhile : Nat → Telemetry → Telemetry) : Nat → Task → Telemetry → Fate
  | 0, _, _ => .dropped
  | polls + 1, task, t =>
      match task.poll (meanwhile (polls + 1) t) with
      | (.pending rest, t) => fate meanwhile polls rest t
      | (.ready outcome, _) => .resolved outcome
      | (.panicked, _) => .panicked

theorem drive_fate (meanwhile : Nat → Telemetry → Telemetry) (polls : Nat) (task : Task) (t : Telemetry) :
    (task.drive meanwhile polls t).1 = (task.fate meanwhile polls t).outcome? := by
  induction polls generalizing task t with
  | zero => rfl
  | succ polls ih =>
      rcases step : task.poll (meanwhile (polls + 1) t) with ⟨result, later⟩
      cases result with
      | pending rest =>
          simp only [drive, fate, step]
          exact ih rest later
      | ready outcome => simp only [drive, fate, step, Fate.outcome?]
      | panicked => simp only [drive, fate, step, Fate.outcome?]

theorem drive_propagate (context : Context) (handler : Terminal) (task : Task) (meanwhile : Nat → Telemetry → Telemetry)
    (polls : Nat) (t : Telemetry) :
    let bare := (Task.scoped context task).drive meanwhile polls t
    let fate := (Task.scoped context task).fate meanwhile polls t
    (propagate context handler task).drive meanwhile polls t =
      (bare.1, fate.remark (handler.fireIn context fate.signal bare.2)) := by
  intro bare fate
  have ended : bare.1 = fate.outcome? := drive_fate meanwhile polls (.scoped context task) t
  have guarded := drive_guarded_alone meanwhile polls (.new context handler) task t
  rw [← TerminalGuard.conclude_fate, ← ended]
  exact guarded

end Task

namespace TerminalGuard

-- The tasks are any, and so are the calls and what goes on between them. What a
-- task would have done in the context alone is followed by one firing.
theorem handler_fires_once (context : Context) (handler : Terminal) :
    (∀ last t, live last [] (.new context handler) t = ([], (handler.fireIn context .cancelled (last t)).abandoned)) ∧
    (∀ last first later t, live last (first :: later) (.new context handler) t =
      (true :: later.map fun _ => false,
        last (elapse later (handler.fireIn context first.call.given (first.meanwhile t))))) ∧
    ∀ task meanwhile polls t,
      let bare := (Task.scoped context task).drive meanwhile polls t
      let fate := (Task.scoped context task).fate meanwhile polls t
      (∀ outcome, fate = .resolved outcome ↔ bare.1 = some outcome) ∧
        ∃ signal, (Task.propagate context handler task).drive meanwhile polls t =
            (bare.1, fate.remark (handler.fireIn context signal bare.2)) ∧
          (∀ response, signal = .success response ↔ fate = .resolved (.ok response)) ∧
          (∀ fault, signal = .failure fault ↔ fate = .resolved (.error fault)) ∧
          (signal = .cancelled ↔ fate = .dropped ∨ fate = .panicked) := by
  refine ⟨live_uncalled context handler, live_armed context handler, ?_⟩
  intro task meanwhile polls t bare fate
  constructor
  · intro outcome
    have ended : bare.1 = fate.outcome? := Task.drive_fate meanwhile polls (.scoped context task) t
    rw [ended, fate.resolved_iff]
  · exact ⟨fate.signal, Task.drive_propagate context handler task meanwhile polls t, fate.success_iff,
      fate.failure_iff, fate.cancelled_iff⟩

example (handler : Terminal) (response : Response) :
    (live id [⟨id, .complete (.ok response)⟩, ⟨id, .cancel⟩, ⟨id, .signal .cancelled⟩] (.new .empty handler)
      (.start .silent false)).1 = [true, false, false] := rfl

end TerminalGuard

end RequestSpans
