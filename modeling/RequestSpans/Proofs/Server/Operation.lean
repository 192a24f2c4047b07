import RequestSpans.Proofs.Server.Boundary
import RequestSpans.Proofs.Server.Coordinator

set_option autoImplicit false

namespace RequestSpans

inductive Operation where
  | enter (boundary : ServerBoundary)
  | complete (boundary : ServerBoundary) (response : Response)
  | fail (boundary : ServerBoundary) (fault : Fault)
  | cancel (boundary : ServerBoundary)
  | preHandle (coordinator : HandlerCoordinator) (handler : Handler)
  | asyncStarted (coordinator : HandlerCoordinator) (handler : Handler)
  | afterCompletion (coordinator : HandlerCoordinator) (response? : Option Response) (handler : Handler)
      (fault? : Option Fault)
  | finish

def Hook.isVerdict : Hook → Bool
  | .response _ _ => true
  | .error _ _ => true
  | _ => false

namespace Operation

def apply : Operation → Request → Telemetry → Request × Telemetry
  | .enter boundary, request, t => (boundary.enter request t).2
  | .complete boundary response, request, t => (request, boundary.complete request response t)
  | .fail boundary fault, request, t => (request, boundary.fail request fault t)
  | .cancel boundary, request, t => (request, boundary.cancel request t)
  | .preHandle coordinator handler, request, t => coordinator.preHandle request handler t
  | .asyncStarted coordinator handler, request, t => coordinator.asyncStarted request handler t
  | .afterCompletion coordinator response? handler fault?, request, t =>
      coordinator.afterCompletion request response? handler fault? t
  | .finish, request, t =>
      match request.marks.wrapper? with
      | some server => (request, (t.finish server).2)
      | none => (request, t)

def handler? : Operation → Option Handler
  | .preHandle _ handler => some handler
  | .asyncStarted _ handler => some handler
  | .afterCompletion _ _ handler _ => some handler
  | _ => none

def completes : Operation → Bool
  | .afterCompletion _ _ _ _ => true
  | _ => false

def resumes : Operation → Request → Bool
  | .preHandle _ _, request => request.marks.asyncPending
  | _, _ => false

def run (operations : List Operation) (start : Request × Telemetry) : Request × Telemetry :=
  operations.foldl (fun state operation => operation.apply state.1 state.2) start

end Operation

structure Request.Keeps (request next : Request) : Prop where
  untraced : next.marks.untraced = request.marks.untraced
  wrapper : next.marks.wrapper? = request.marks.wrapper?
  continuations : next.marks.continuations = request.marks.continuations

theorem Request.keeps_self (request : Request) : request.Keeps request := ⟨rfl, rfl, rfl⟩

structure Continued (op : Operation) (request : Request) (server : SpanContext) (handler : Handler) (l : Ledger)
    (next : Request) (span : SpanContext) (reached : Ledger) (rounds : List Milestone) : Prop where
  handled : op.handler? = some handler
  resumption : Resumption l server handler request.marks span reached
  round : ∃ (chain : DecoratorChain) (hook : Hook), hook.isVerdict = false ∧ rounds = chain.milestones hook (some span)
  untraced : next.marks.untraced = request.marks.untraced
  wrapper : next.marks.wrapper? = request.marks.wrapper?
  continuations : next.marks.continuations = Marks.putContinuation request.marks.continuations handler span

inductive Effect (op : Operation) (request : Request) (l : Ledger) (next : Request) : Ledger → Prop
  | rested (keeps : request.Keeps next) : Effect op request l next l
  | refused (unmarked : request.marks.wrapper? = none)
      (decided : next.marks = { request.marks with untraced := true }) : Effect op request l next l
  | admitted (span : SpanContext) (parent? : Option SpanContext) (chain : DecoratorChain) (hook : Hook)
      (entering : op.handler? = none) (unmarked : request.marks.wrapper? = none) (undecided : request.marks.untraced = false) (fresh : l.Next span)
      (travels : next = request.withServer span) (ordinary : hook.isVerdict = false) :
      Effect op request l next ((l.start span parent? []).note (chain.milestones hook (some span)))
  | decorated (server : SpanContext) (chain : DecoratorChain) (hook : Hook)
      (marked : request.marks.wrapper? = some server) (running : l.finished server = false)
      (keeps : request.Keeps next) (ordinary : hook.isVerdict = false) :
      Effect op request l next (l.note (chain.milestones hook (some server)))
  | closed (server : SpanContext) (rounds : List Milestone) (marked : request.marks.wrapper? = some server)
      (running : l.finished server = false) (keeps : request.Keeps next)
      (verdict : rounds = [] ∨ ∃ (chain : DecoratorChain) (hook : Hook), rounds = chain.milestones hook (some server)) :
      Effect op request l next ((l.note rounds).close server)
  | refinished (server : SpanContext) (marked : request.marks.wrapper? = some server)
      (stopped : l.finished server = true) (keeps : request.Keeps next) :
      Effect op request l next (l.note [.finishing server false])
  | continued (server : SpanContext) (handler : Handler) (span : SpanContext) (reached : Ledger) (rounds : List Milestone)
      (marked : request.marks.wrapper? = some server) (stopped : l.finished server = true)
      (continues : Continued op request server handler l next span reached rounds) :
      Effect op request l next (if op.completes then (reached.note rounds).close span else reached.note rounds)

namespace Operation

theorem traced_marks (request : Request) (traced : ¬(request.marks.untraced = true ∨ request.marks.wrapper? = none)) :
    request.marks.untraced = false ∧ ∃ server, request.marks.wrapper? = some server := by
  simp only [not_or, Bool.not_eq_true] at traced
  exact ⟨traced.1, Option.ne_none_iff_exists'.mp traced.2⟩

theorem activate_idle (coordinator : HandlerCoordinator) (request : Request) (handler : Handler) (t : Telemetry)
    (idle : request.marks.untraced = true ∨ request.marks.wrapper? = none) :
    ∃ later, coordinator.activate request handler t = (none, request, later) ∧ later.ledger = t.ledger := by
  cases decided : request.marks.untraced with
  | true => exact ⟨t, coordinator.activate_untraced request handler t decided, rfl⟩
  | false =>
      have unmarked : request.marks.wrapper? = none := by simpa [decided] using idle
      exact ⟨_, coordinator.activate_missing request handler t decided unmarked, coordinator.report_missing_ledger handler t⟩

theorem enter_effect (boundary : ServerBoundary) (request : Request) (t : Telemetry) :
    Effect (.enter boundary) request t.ledger ((enter boundary).apply request t).1
      ((enter boundary).apply request t).2.ledger := by
  cases marked : request.marks.wrapper? with
  | some server =>
      simp only [apply, boundary.enter_again request t server marked]
      exact .rested request.keeps_self
  | none =>
      by_cases refused : request.marks.untraced = true ∨ boundary.traces request = false
      · obtain ⟨decided, same⟩ := boundary.enter_refused request t marked refused
        simp only [apply, same]
        exact .refused marked (by rw [decided])
      · simp only [not_or, Bool.not_eq_true, Bool.not_eq_false] at refused
        simp only [apply, boundary.enter_traced request t marked refused.1 refused.2, boundary.open_span_ledger]
        exact .admitted _ _ _ _ rfl marked refused.1 (t.next_context_next _) rfl rfl

theorem closed_effect (op : Operation) (request : Request) (t after : Telemetry) (rounds : SpanContext → List Milestone)
    (verdict : ∀ server, rounds server = [] ∨
      ∃ (chain : DecoratorChain) (hook : Hook), rounds server = chain.milestones hook (some server))
    (runs : ∀ server, request.marks.wrapper? = some server → t.isFinished server = false →
      after.ledger = (t.ledger.note (rounds server)).close server)
    (rests : (∀ server, request.marks.wrapper? = some server → t.isFinished server = true) → after.ledger = t.ledger) :
    Effect op request t.ledger request after.ledger := by
  cases marked : request.marks.wrapper? with
  | none =>
      rw [rests (by simp [marked])]
      exact .rested request.keeps_self
  | some server =>
      cases stopped : t.isFinished server with
      | true =>
          rw [rests (by simp [marked, stopped])]
          exact .rested request.keeps_self
      | false =>
          rw [runs server marked stopped]
          exact .closed server _ marked (t.is_finished_ledger server ▸ stopped) request.keeps_self (verdict server)

theorem finish_effect (request : Request) (t : Telemetry) :
    Effect .finish request t.ledger (finish.apply request t).1 (finish.apply request t).2.ledger := by
  cases marked : request.marks.wrapper? with
  | none =>
      simp only [apply, marked]
      exact .rested request.keeps_self
  | some server =>
      simp only [apply, marked]
      cases stopped : t.isFinished server with
      | true =>
          rw [(t.finish_finished server stopped).2]
          exact .refinished server marked (t.is_finished_ledger server ▸ stopped) request.keeps_self
      | false =>
          have closed : Effect .finish request t.ledger request ((t.ledger.note []).close server) :=
            .closed server [] marked (t.is_finished_ledger server ▸ stopped) request.keeps_self (.inl rfl)
          rw [(t.finish_running server stopped).2]
          simpa [Ledger.note] using closed

theorem operation_continues (operation : Operation) (request : Request) (t : Telemetry) (server : SpanContext)
    (handler : Handler) (handled : operation.handler? = some handler) (active : operation.resumes request = false)
    (undecided : request.marks.untraced = false) (marked : request.marks.wrapper? = some server)
    (stopped : t.isFinished server = true) :
    ∃ span later rounds, Resumes t server handler request.marks span later ∧ later.Grows (operation.apply request t).2 ∧
      Continued operation request server handler t.ledger (operation.apply request t).1 span later.ledger rounds ∧
      (operation.apply request t).2.ledger =
        if operation.completes then (later.ledger.note rounds).close span else later.ledger.note rounds := by
  cases operation with
  | preHandle coordinator owner =>
      obtain rfl : owner = handler := Option.some.inj handled
      obtain ⟨span, later, resumes, grows, moved, noted⟩ :=
        coordinator.pre_handle_resumes request owner t server undecided active marked stopped
      refine ⟨span, later, _, resumes, grows, ⟨rfl, resumes.resumption, ⟨_, _, rfl, rfl⟩, ?_, ?_, ?_⟩, noted⟩ <;>
        simp only [apply, moved] <;> rfl
  | asyncStarted coordinator owner =>
      obtain rfl : owner = handler := Option.some.inj handled
      obtain ⟨span, later, resumes, grows, moved, noted⟩ :=
        coordinator.async_started_resumes request owner t server undecided marked stopped
      refine ⟨span, later, _, resumes, grows, ⟨rfl, resumes.resumption, ⟨_, _, rfl, rfl⟩, ?_, ?_, ?_⟩, noted⟩ <;>
        simp only [apply, moved] <;> rfl
  | afterCompletion coordinator response? owner fault? =>
      obtain rfl : owner = handler := Option.some.inj handled
      obtain ⟨span, later, resumes, grows, moved, noted⟩ :=
        coordinator.after_completion_resumes request response? owner fault? t server undecided marked stopped
      refine ⟨span, later, _, resumes, grows, ⟨rfl, resumes.resumption, ⟨_, _, rfl, rfl⟩, ?_, ?_, ?_⟩, noted⟩ <;>
        simp only [apply, moved] <;> rfl
  | enter _ => simp [handler?] at handled
  | complete _ _ => simp [handler?] at handled
  | fail _ _ => simp [handler?] at handled
  | cancel _ => simp [handler?] at handled
  | finish => simp [handler?] at handled

theorem continued_effect (operation : Operation) (request : Request) (t : Telemetry) (server : SpanContext)
    (handler : Handler) (handled : operation.handler? = some handler) (active : operation.resumes request = false)
    (undecided : request.marks.untraced = false) (marked : request.marks.wrapper? = some server)
    (stopped : t.isFinished server = true) :
    Effect operation request t.ledger (operation.apply request t).1 (operation.apply request t).2.ledger := by
  obtain ⟨span, later, rounds, _, _, continues, noted⟩ :=
    operation_continues operation request t server handler handled active undecided marked stopped
  rw [noted]
  exact .continued server handler span later.ledger rounds marked (t.is_finished_ledger server ▸ stopped) continues

theorem pre_handle_effect (coordinator : HandlerCoordinator) (handler : Handler) (request : Request) (t : Telemetry) :
    Effect (.preHandle coordinator handler) request t.ledger ((preHandle coordinator handler).apply request t).1
      ((preHandle coordinator handler).apply request t).2.ledger := by
  cases pending : request.marks.asyncPending with
  | true =>
      obtain ⟨moved, same⟩ := coordinator.pre_handle_pending request handler t pending
      simp only [apply, moved, same]
      exact .rested ⟨rfl, rfl, rfl⟩
  | false =>
      by_cases idle : request.marks.untraced = true ∨ request.marks.wrapper? = none
      · obtain ⟨later, activated, same⟩ := activate_idle coordinator request handler t idle
        simp only [apply, HandlerCoordinator.preHandle, pending, activated, Bool.false_eq_true, if_false, same]
        exact .rested request.keeps_self
      · obtain ⟨undecided, server, marked⟩ := traced_marks request idle
        cases stopped : t.isFinished server with
        | true => exact continued_effect _ request t server handler rfl pending undecided marked stopped
        | false =>
            simp only [apply]
            rw [coordinator.pre_handle_running request handler t server undecided pending marked stopped,
              HandlerCoordinator.invoke_ledger]
            exact .decorated server _ _ marked (t.is_finished_ledger server ▸ stopped) request.keeps_self rfl

theorem async_started_effect (coordinator : HandlerCoordinator) (handler : Handler) (request : Request) (t : Telemetry) :
    Effect (.asyncStarted coordinator handler) request t.ledger ((asyncStarted coordinator handler).apply request t).1
      ((asyncStarted coordinator handler).apply request t).2.ledger := by
  by_cases idle : request.marks.untraced = true ∨ request.marks.wrapper? = none
  · obtain ⟨later, activated, same⟩ := activate_idle coordinator request handler t idle
    simp only [apply, HandlerCoordinator.asyncStarted, activated, same]
    exact .rested ⟨rfl, rfl, rfl⟩
  · obtain ⟨undecided, server, marked⟩ := traced_marks request idle
    cases stopped : t.isFinished server with
    | true => exact continued_effect _ request t server handler rfl rfl undecided marked stopped
    | false =>
        simp only [apply]
        rw [coordinator.async_started_running request handler t server undecided marked stopped,
          HandlerCoordinator.invoke_ledger]
        exact .decorated server _ _ marked (t.is_finished_ledger server ▸ stopped) ⟨rfl, rfl, rfl⟩ rfl

theorem after_completion_effect (coordinator : HandlerCoordinator) (response? : Option Response) (handler : Handler)
    (fault? : Option Fault) (request : Request) (t : Telemetry)
    (apart : ∀ server, request.marks.wrapper? = some server → t.isFinished server = false →
      request.marks.continuation? handler ≠ some server) :
    Effect (.afterCompletion coordinator response? handler fault?) request t.ledger
      ((afterCompletion coordinator response? handler fault?).apply request t).1
      ((afterCompletion coordinator response? handler fault?).apply request t).2.ledger := by
  by_cases idle : request.marks.untraced = true ∨ request.marks.wrapper? = none
  · obtain ⟨later, activated, same⟩ := activate_idle coordinator request handler t idle
    simp only [apply, HandlerCoordinator.afterCompletion, activated, same]
    exact .rested request.keeps_self
  · obtain ⟨undecided, server, marked⟩ := traced_marks request idle
    cases stopped : t.isFinished server with
    | true => exact continued_effect _ request t server handler rfl rfl undecided marked stopped
    | false =>
        simp only [apply]
        rw [coordinator.after_completion_running request response? handler fault? t server undecided marked stopped
          (apart server marked stopped), HandlerCoordinator.invoke_ledger]
        exact .decorated server _ _ marked (t.is_finished_ledger server ▸ stopped) request.keeps_self rfl

theorem complete_effect (boundary : ServerBoundary) (response : Response) (request : Request) (t : Telemetry) :
    Effect (.complete boundary response) request t.ledger ((complete boundary response).apply request t).1
      ((complete boundary response).apply request t).2.ledger := by
  simp only [apply, ServerBoundary.complete]
  cases request.marks.asyncPending with
  | true =>
      simp only [if_true, Telemetry.ledger_log]
      exact .rested request.keeps_self
  | false =>
      exact closed_effect _ request t _ _ (fun _ => .inr ⟨_, _, rfl⟩)
        (fun server => boundary.close_running request _ _ t server) (boundary.close_over request _ _ t)

theorem effect (operation : Operation) (request : Request) (t : Telemetry)
    (apart : ∀ server handler, request.marks.wrapper? = some server → t.isFinished server = false →
      request.marks.continuation? handler ≠ some server) :
    Effect operation request t.ledger (operation.apply request t).1 (operation.apply request t).2.ledger := by
  cases operation with
  | enter boundary => exact enter_effect boundary request t
  | complete boundary response => exact complete_effect boundary response request t
  | fail boundary fault =>
      exact closed_effect _ request t _ _ (fun _ => .inr ⟨_, _, rfl⟩)
        (fun server => boundary.close_running request _ _ t server) (boundary.close_over request _ _ t)
  | cancel boundary =>
      refine closed_effect _ request t _ (fun _ => []) (fun _ => .inl rfl) ?_ (boundary.cancel_over request t)
      intro server marked running
      simp only [apply, boundary.cancel_running request t server marked running, Ledger.note, List.append_nil]
  | preHandle coordinator handler => exact pre_handle_effect coordinator handler request t
  | asyncStarted coordinator handler => exact async_started_effect coordinator handler request t
  | afterCompletion coordinator response? handler fault? =>
      exact after_completion_effect coordinator response? handler fault? request t fun server => apart server handler
  | finish => exact finish_effect request t

theorem grows (operation : Operation) (request : Request) (t : Telemetry) : t.Grows (operation.apply request t).2 := by
  cases operation with
  | enter boundary => exact boundary.grows_enter request t
  | complete boundary response => exact boundary.grows_complete request response t
  | fail boundary fault => exact boundary.grows_close request _ _ t
  | cancel boundary => exact boundary.grows_cancel request t
  | preHandle coordinator handler => exact coordinator.grows_pre_handle request handler t
  | asyncStarted coordinator handler => exact coordinator.grows_async_started request handler t
  | afterCompletion coordinator response? handler fault? =>
      exact coordinator.grows_after_completion request response? handler fault? t
  | finish =>
      simp only [apply]
      split
      · exact t.grows_finish _
      · exact t.grows_self

end Operation

end RequestSpans
