import RequestSpans.Proofs.Comparison.Server
import RequestSpans.Proofs.Server.Stack

set_option autoImplicit false

namespace RequestSpans

structure Quiet (t t' : Telemetry) : Prop where
  ledger : t'.ledger = t.ledger
  reported : t'.reported = t.reported
  logs : ∃ news, t'.journal = t.journal ++ news ∧ ∀ entry ∈ news, ∃ message fields, entry = .logged ⟨.debug, message, fields⟩

theorem quiet_self (t : Telemetry) : Quiet t t := ⟨rfl, rfl, [], by simp, by simp⟩

theorem quiet_trans (t between t' : Telemetry) (first : Quiet t between) (second : Quiet between t') : Quiet t t' := by
  obtain ⟨news, journal, logs⟩ := first.logs
  obtain ⟨more, journal', logs'⟩ := second.logs
  refine ⟨second.ledger.trans first.ledger, second.reported.trans first.reported, news ++ more, ?_, ?_⟩
  · rw [journal', journal, List.append_assoc]
  · exact fun entry member => (List.mem_append.mp member).elim (logs entry) (logs' entry)

theorem reported_alter (t : Telemetry) (span : SpanContext) (change : Span → Span) :
    (t.alter span change).reported = t.reported := by
  unfold Telemetry.alter
  split <;> rfl

theorem quiet_log (t : Telemetry) (message : String) (fields : List (String × String)) :
    Quiet t (t.log .debug message fields) := by
  refine ⟨t.ledger_log _ _ _, ?_, _, t.journal_log _ _ _, by simp⟩
  cases inside : t.entered with
  | nil => rw [t.log_outside _ _ _ inside, Telemetry.record]
  | cons tracer rest => simp [Telemetry.log, Telemetry.record, inside, Telemetry.update, reported_alter]

def Request.decision (request : Request) : Bool × Option SpanContext := (request.marks.untraced, request.marks.wrapper?)

theorem entered_decision (request : Request) (decision : Bool × Option SpanContext) (decided : request.decision = decision) :
    request.entered = (decision.1 || decision.2.isSome) := by
  rw [← decided]
  rfl

theorem untraced_decision (request : Request) (skipped : request.decision = (true, none)) :
    request.marks.untraced = true ∧ request.marks.wrapper? = none := Prod.mk.inj skipped

namespace HandlerCoordinator

variable (coordinator : HandlerCoordinator) (request : Request) (handler : Handler) (t : Telemetry)

theorem activate_decision : (coordinator.activate request handler t).2.1.decision = request.decision := by
  cases decided : request.marks.untraced with
  | true => rw [coordinator.activate_untraced request handler t decided]
  | false =>
      cases marked : request.marks.wrapper? with
      | none => rw [coordinator.activate_missing request handler t decided marked]
      | some server =>
          cases stopped : t.isFinished server with
          | false => rw [coordinator.activate_running request handler t server decided marked stopped]
          | true =>
              rw [coordinator.activate_over request handler t server decided marked stopped]
              rfl

theorem pre_handle_decision : (coordinator.preHandle request handler t).1.decision = request.decision := by
  cases pending : request.marks.asyncPending with
  | true =>
      rw [(coordinator.pre_handle_pending request handler t pending).1]
      rfl
  | false =>
      rw [Pairing.pre_handle_activated handler pending]
      exact coordinator.activate_decision request handler t

theorem async_started_decision : (coordinator.asyncStarted request handler t).1.decision = request.decision := by
  rw [Pairing.async_started_activated handler]
  exact coordinator.activate_decision request handler t

theorem after_completion_decision (response? : Option Response) (fault? : Option Fault) :
    (coordinator.afterCompletion request response? handler fault? t).1.decision = request.decision := by
  have activated := coordinator.activate_decision request handler t
  have ended : ∀ (span : SpanContext) (next : Request) (before : Telemetry),
      (endContinuation span next before).1.decision = next.decision := by
    intro span next before
    cases marked : next.marks.wrapper? <;> simp [endContinuation, marked, Request.decision]
  rw [Pairing.after_completion_activated handler response? fault?]
  split
  · exact activated
  · dsimp only
    split
    · exact (ended _ _ _).trans activated
    · exact activated

end HandlerCoordinator

namespace ServerBoundary

theorem enter_untraced (boundary : ServerBoundary) (request : Request) (t : Telemetry)
    (skipped : request.decision = (true, none)) : boundary.enter request t = (.skipped, request, t) := by
  obtain ⟨untraced, unmarked⟩ := untraced_decision request skipped
  obtain ⟨method, uri, version, headers, body, marks⟩ := request
  obtain ⟨decided, pending, wrapper?, active?, continuations⟩ := marks
  obtain rfl : decided = true := untraced
  obtain rfl : wrapper? = none := unmarked
  rfl

theorem enter_first (boundary : ServerBoundary) (request : Request) (t : Telemetry) (undecided : request.entered = false) :
    ((boundary.enter request t).1 = .skipped ∧ (boundary.enter request t).2.1.decision = (true, none) ∧
        Quiet t (boundary.enter request t).2.2) ∨
      ∃ server, (boundary.enter request t).1 = .started server ∧
        (boundary.enter request t).2.1.decision = (false, some server) := by
  obtain ⟨fresh, unmarked⟩ : request.marks.untraced = false ∧ request.marks.wrapper? = none := by
    simpa [Request.entered] using undecided
  by_cases traced : boundary.traces request = true
  · rw [boundary.enter_traced request t unmarked fresh traced]
    exact .inr ⟨_, rfl, by simp [Request.decision, Request.withServer, fresh]⟩
  · have refused : boundary.traces request = false := by simpa using traced
    have decided := (boundary.is_traced_refuses request t refused).1
    have looked : Quiet t (boundary.isTraced request t).2 := by
      unfold isTraced
      dsimp only
      split
      · exact quiet_self t
      · split
        · exact quiet_log t _ _
        · split
          · exact quiet_log t _ _
          · exact quiet_self t
    simp only [enter, unmarked, fresh, decided, Bool.false_eq_true, if_false]
    exact .inl ⟨trivial, rfl, looked⟩

end ServerBoundary

namespace Operation

theorem apply_decision (operation : Operation) (request : Request) (t : Telemetry)
    (settled : request.entered = true ∨ ∀ boundary, operation ≠ .enter boundary) :
    (operation.apply request t).1.decision = request.decision := by
  cases operation with
  | enter boundary =>
      have entered : request.entered = true := settled.resolve_right fun other => other boundary rfl
      cases marked : request.marks.wrapper? with
      | some server => simp only [apply, boundary.enter_again request t server marked]
      | none =>
          have untraced : request.marks.untraced = true := by simpa [Request.entered, marked] using entered
          have skipped : request.decision = (true, none) := Prod.ext untraced marked
          simp only [apply, boundary.enter_untraced request t skipped]
  | complete boundary response => rfl
  | fail boundary fault => rfl
  | cancel boundary => rfl
  | preHandle coordinator handler => exact coordinator.pre_handle_decision request handler t
  | asyncStarted coordinator handler => exact coordinator.async_started_decision request handler t
  | afterCompletion coordinator response? handler fault? =>
      exact coordinator.after_completion_decision request handler t response? fault?
  | finish => cases marked : request.marks.wrapper? <;> simp [apply, marked]

theorem apply_consistent (operation : Operation) (request : Request) (t : Telemetry)
    (consistent : request.marks.untraced = true → request.marks.wrapper? = none) :
    (operation.apply request t).1.marks.untraced = true → (operation.apply request t).1.marks.wrapper? = none := by
  have kept : request.entered = true ∨ (∀ boundary, operation ≠ .enter boundary) →
      (operation.apply request t).1.marks.untraced = true → (operation.apply request t).1.marks.wrapper? = none := by
    intro settled
    obtain ⟨untraced, wrapper⟩ := Prod.mk.inj (apply_decision operation request t settled)
    rw [untraced, wrapper]
    exact consistent
  cases operation with
  | enter boundary =>
      by_cases entered : request.entered = true
      · exact kept (.inl entered)
      · rcases boundary.enter_first request t (by simpa using entered) with ⟨_, skipped, _⟩ | ⟨server, _, started⟩
        · exact fun _ => (untraced_decision _ skipped).2
        · exact fun untraced => absurd (untraced.symm.trans (Prod.mk.inj started).1) (by simp)
  | _ => exact kept (.inr fun _ => by simp)

theorem apply_quiet (operation : Operation) (request : Request) (t : Telemetry) (skipped : request.decision = (true, none)) :
    Quiet t (operation.apply request t).2 := by
  obtain ⟨untraced, unmarked⟩ := untraced_decision request skipped
  have activated := fun (coordinator : HandlerCoordinator) handler =>
    coordinator.activate_untraced request handler t untraced
  have closed : ∀ (boundary : ServerBoundary) hook actions, boundary.close request hook actions t = t := by
    intro boundary hook actions
    simp only [ServerBoundary.close, ServerBoundary.unfinished, unmarked]
  cases operation with
  | enter boundary =>
      simp only [apply, boundary.enter_untraced request t skipped]
      exact quiet_self t
  | complete boundary response =>
      simp only [apply, ServerBoundary.complete, closed]
      split
      · exact quiet_log t _ _
      · exact quiet_self t
  | fail boundary fault =>
      simp only [apply, ServerBoundary.fail, closed]
      exact quiet_self t
  | cancel boundary =>
      simp only [apply, ServerBoundary.cancel, ServerBoundary.unfinished, unmarked]
      exact quiet_self t
  | preHandle coordinator handler =>
      simp only [apply, HandlerCoordinator.preHandle, activated]
      split
      · exact quiet_log t _ _
      · exact quiet_self t
  | asyncStarted coordinator handler =>
      simp only [apply, HandlerCoordinator.asyncStarted, activated]
      exact quiet_self t
  | afterCompletion coordinator response? handler fault? =>
      simp only [apply, HandlerCoordinator.afterCompletion, activated]
      exact quiet_self t
  | finish =>
      simp only [apply, unmarked]
      exact quiet_self t

end Operation

end RequestSpans
