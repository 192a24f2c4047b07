import RequestSpans.Proofs.Server.Suspension
import RequestSpans.Service

set_option autoImplicit false

namespace RequestSpans

-- A request with a server span is placed below that, or below the continuation
-- span of one of its handlers, as long as that is open.
inductive Placed (server : SpanContext) (marks : Marks) (l : Ledger) : Prop
  | original (active : marks.active? = some (.of server))
  | continuation (handler : Handler) (span : SpanContext) (active : marks.active? = some (.of span))
      (kept : marks.continuation? handler = some span) (running : l.standing? span = some ⟨span, false, false⟩)

structure Parented (request : Request) (t : Telemetry) (span : SpanContext) : Prop where
  active : request.marks.active? = some (.of span)
  opened : ∀ level component, (LocalSpan.openFor level component request t).1.parent = .of span
  bridged : ∀ level component (later : Telemetry), later.bridged = true →
    ∃ tracer, ((LocalSpan.openFor level component request t).1.started later).1.tracer? = some tracer ∧
      ((LocalSpan.openFor level component request t).1.started later).2.Places tracer .internal (some span)

theorem open_for_parent (level : LogLevel) (component : String) (request : Request) (t : Telemetry) :
    (LocalSpan.openFor level component request t).1.parent = request.marks.active?.getD t.current ∧
      (LocalSpan.openFor level component request t).1.tracer? = none := by
  unfold LocalSpan.openFor
  dsimp only
  split <;> exact ⟨rfl, rfl⟩

theorem started_bridged (span : LocalSpan) (t : Telemetry) (bridged : t.bridged = true) (fresh : span.tracer? = none) :
    span.started t = ({ span with tracer? := some (t.nextContext span.parent) },
      (t.startSpan "request" .internal span.parent span.attributes []).2) := by
  simp only [LocalSpan.started, bridged, fresh, Option.isNone_none, Bool.and_true, if_true]
  rfl

theorem parented_active (request : Request) (t : Telemetry) (span : SpanContext)
    (active : request.marks.active? = some (.of span)) : Parented request t span := by
  have below : ∀ level component, (LocalSpan.openFor level component request t).1.parent = .of span := by
    intro level component
    rw [(open_for_parent level component request t).1, active]
    rfl
  refine ⟨active, below, fun level component later bridged => ⟨later.nextContext (.of span), ?_⟩⟩
  rw [started_bridged _ later bridged (open_for_parent level component request t).2, below]
  exact ⟨rfl, later.start_places _ _ _ _ _ _ (Telemetry.grows_self _)⟩

section Steps

variable {server : SpanContext} {stopped : Bool} {base news : List Milestone} {request : Request} {t : Telemetry}
  {log : List (Handler × SpanContext)} (accounted : Accounted server stopped base news request t log)

include accounted

theorem kept_continuation (handler : Handler) (span : SpanContext) (kept : request.marks.continuation? handler = some span) :
    Continuation server news t.ledger span := by
  obtain ⟨entry, found, rfl⟩ := Option.map_eq_some_iff.mp kept
  exact accounted.account.spans entry (accounted.account.entries entry (List.mem_of_find?_eq_some found))

theorem placed_running (placed : Placed server request.marks t.ledger) (running : stopped = false) :
    request.marks.active? = some (.of server) := by
  cases placed with
  | original active => exact active
  | continuation handler span _ kept _ =>
      have bare := (accounted.traced.holds request List.mem_cons_self).early running
      simp [Marks.continuation?, bare] at kept

theorem leaves_active (operation : Operation) (leaves : operation.Leaves request stopped) :
    (operation.apply request t).1.marks.active? = request.marks.active? := by
  have holds := accounted.traced.holds request List.mem_cons_self
  have finished := t.is_finished_ledger server
  rw [Ledger.finished, accounted.traced.tally.standing] at finished
  have unfinished : operation.handler? ≠ none → operation.resumes request = false → t.isFinished server = false := by
    intro handled active
    cases flag : stopped with
    | false => rw [finished, flag]; rfl
    | true => exact ((leaves flag).elim handled fun resumes => by simp [resumes] at active).elim
  cases operation with
  | enter boundary => simp only [Operation.apply, boundary.enter_again request t server holds.wrapper]
  | complete boundary response => rfl
  | fail boundary fault => rfl
  | cancel boundary => rfl
  | finish => simp only [Operation.apply, holds.wrapper]
  | preHandle coordinator handler =>
      cases pending : request.marks.asyncPending with
      | true => simp only [Operation.apply, (coordinator.pre_handle_pending request handler t pending).1]
      | false =>
          have running := unfinished (by simp [Operation.handler?]) pending
          simp only [Operation.apply,
            coordinator.pre_handle_running request handler t server holds.traced pending holds.wrapper running]
  | asyncStarted coordinator handler =>
      have running := unfinished (by simp [Operation.handler?]) rfl
      simp only [Operation.apply,
        coordinator.async_started_running request handler t server holds.traced holds.wrapper running]
  | afterCompletion coordinator response? handler fault? =>
      have running := unfinished (by simp [Operation.handler?]) rfl
      have apart := holds_apart server stopped news request t accounted.traced.tally holds server handler holds.wrapper running
      simp only [Operation.apply,
        coordinator.after_completion_running request response? handler fault? t server holds.traced holds.wrapper running apart]

end Steps

theorem continues_active (operation : Operation) (request : Request) (t : Telemetry) (server : SpanContext)
    (handler : Handler) (handled : operation.handler? = some handler) (active : operation.resumes request = false)
    (undecided : request.marks.untraced = false) (marked : request.marks.wrapper? = some server)
    (stopped : t.isFinished server = true) :
    (operation.apply request t).1.marks.active? =
      if operation.completes then some (.of server)
      else ((operation.apply request t).1.marks.continuation? handler).map Context.of := by
  have owned : ∀ span, (request.continueOn handler span).marks.continuation? handler = some span :=
    fun span => put_continuation_self request.marks.continuations handler span
  cases operation with
  | preHandle coordinator owner =>
      obtain rfl : owner = handler := Option.some.inj handled
      obtain ⟨span, later, _, _, moved, _⟩ :=
        coordinator.pre_handle_resumes request owner t server undecided active marked stopped
      simp only [Operation.apply, moved, owned]
      rfl
  | asyncStarted coordinator owner =>
      obtain rfl : owner = handler := Option.some.inj handled
      obtain ⟨span, later, _, _, moved, _⟩ :=
        coordinator.async_started_resumes request owner t server undecided marked stopped
      have kept : (coordinator.asyncStarted request owner t).1.marks.continuation? owner = some span := by
        rw [moved]
        exact owned span
      simp only [Operation.apply]
      rw [kept, moved]
      rfl
  | afterCompletion coordinator response? owner fault? =>
      obtain rfl : owner = handler := Option.some.inj handled
      obtain ⟨span, later, _, _, moved, _⟩ :=
        coordinator.after_completion_resumes request response? owner fault? t server undecided marked stopped
      simp only [Operation.apply, moved]
      rfl
  | enter _ => simp [Operation.handler?] at handled
  | complete _ _ => simp [Operation.handler?] at handled
  | fail _ _ => simp [Operation.handler?] at handled
  | cancel _ => simp [Operation.handler?] at handled
  | finish => simp [Operation.handler?] at handled

theorem step_placed (operation : Operation) (server : SpanContext) (stopped : Bool) (base news : List Milestone)
    (request : Request) (t : Telemetry) (log : List (Handler × SpanContext))
    (accounted : Accounted server stopped base news request t log) (placed : Placed server request.marks t.ledger) :
    ∃ later events opened, Accounted server later base (news ++ events) (operation.apply request t).1
        (operation.apply request t).2 (log ++ opened) ∧
      Placed server (operation.apply request t).1.marks (operation.apply request t).2.ledger := by
  have holds := accounted.traced.holds request List.mem_cons_self
  rcases leaves_or_continues operation request stopped with leaves | ⟨rfl, handler, handled, active⟩
  · obtain ⟨later, events, kept, _, _, _⟩ :=
      operation_keeps_account operation server stopped base news request t log accounted leaves
    obtain ⟨keeps, _, _, _, _, same⟩ :=
      operation_leaves operation server stopped news request t accounted.traced.tally holds leaves
    refine ⟨later, events, [], by rw [List.append_nil]; exact kept, ?_⟩
    have stays := leaves_active accounted operation leaves
    cases placed with
    | original active => exact .original (stays.trans active)
    | continuation handler span active kept running =>
        have apart := (kept_continuation accounted handler span kept).apart
        refine .continuation handler span (stays.trans active) ?_ ((same span apart).trans running)
        rw [Marks.continuation?, keeps.continuations]
        exact kept
  · obtain ⟨span, starts, opened, events, later, continues, kept⟩ :=
      operation_accounts operation server base news request t log accounted handler handled active
    have finished : t.isFinished server = true := by
      rw [t.is_finished_ledger, Ledger.finished, accounted.traced.tally.standing]
      rfl
    have moves := continues_active operation request t server handler handled active holds.traced holds.wrapper finished
    refine ⟨later, events, opened, kept, ?_⟩
    cases completes : operation.completes with
    | true => exact .original (by rw [moves, completes]; rfl)
    | false =>
        have tidy := (kept_continuation kept handler span continues.current).tidy
        refine .continuation handler span ?_ continues.current (Ledger.tidy_running _ span tidy ?_)
        · rw [moves, completes, continues.current]
          rfl
        · rw [continues.completed, completes]

theorem run_placed (operations : List Operation) (server : SpanContext) (stopped : Bool) (base news : List Milestone)
    (request : Request) (t : Telemetry) (log : List (Handler × SpanContext))
    (accounted : Accounted server stopped base news request t log) (placed : Placed server request.marks t.ledger) :
    let state := Operation.run operations (request, t)
    ∃ later events opened, Accounted server later base events state.1 state.2 opened ∧
      Placed server state.1.marks state.2.ledger := by
  induction operations generalizing stopped news request t log with
  | nil => exact ⟨stopped, news, log, accounted, placed⟩
  | cons operation rest ih =>
      obtain ⟨between, events, opened, stepped, moved⟩ :=
        step_placed operation server stopped base news request t log accounted placed
      exact ih between _ _ _ _ stepped moved

theorem unmarked_active (operation : Operation) (request : Request) (t : Telemetry) (unmarked : request.marks.wrapper? = none)
    (idle : request.marks.active? = none) :
    (operation.apply request t).1.marks.active? = (operation.apply request t).1.marks.wrapper?.map Context.of := by
  have activated := fun (coordinator : HandlerCoordinator) handler =>
    Operation.activate_idle coordinator request handler t (.inr unmarked)
  have same : request.marks.active? = request.marks.wrapper?.map Context.of := by rw [idle, unmarked]; rfl
  cases operation with
  | enter boundary =>
      by_cases refused : request.marks.untraced = true ∨ boundary.traces request = false
      · simp only [Operation.apply, (boundary.enter_refused request t unmarked refused).1]
        exact same
      · simp only [not_or, Bool.not_eq_true, Bool.not_eq_false] at refused
        simp only [Operation.apply, boundary.enter_traced request t unmarked refused.1 refused.2]
        rfl
  | complete boundary response => exact same
  | fail boundary fault => exact same
  | cancel boundary => exact same
  | finish => simpa only [Operation.apply, unmarked] using same
  | preHandle coordinator handler =>
      obtain ⟨later, found, _⟩ := activated coordinator handler
      simp only [Operation.apply, HandlerCoordinator.preHandle, found]
      split <;> exact same
  | asyncStarted coordinator handler =>
      obtain ⟨later, found, _⟩ := activated coordinator handler
      simp only [Operation.apply, HandlerCoordinator.asyncStarted, found]
      exact same
  | afterCompletion coordinator response? handler fault? =>
      obtain ⟨later, found, _⟩ := activated coordinator handler
      simp only [Operation.apply, HandlerCoordinator.afterCompletion, found]
      exact same

theorem run_unmarked_placed (operations : List Operation) (base : List Milestone) (request : Request) (t : Telemetry)
    (spanless : Spanless base ⟨[request], t⟩) (idle : request.marks.active? = none) :
    let state := Operation.run operations (request, t)
    (Spanless base ⟨[state.1], state.2⟩ ∧ state.1.marks.active? = none) ∨
      ∃ server stopped news log, Accounted server stopped base news state.1 state.2 log ∧
        Placed server state.1.marks state.2.ledger := by
  induction operations generalizing request t with
  | nil => exact .inl ⟨spanless, idle⟩
  | cons operation rest ih =>
      have unmarked := (spanless.unmarked request List.mem_cons_self).1
      have active := unmarked_active operation request t unmarked idle
      rcases operation_spanless operation base ⟨[request], t⟩ 0 request spanless rfl with
        still | ⟨_, server, news, first, traced⟩
      · have bare := (still.unmarked (operation.apply request t).1 List.mem_cons_self).1
        rw [bare] at active
        exact ih _ _ still active
      · have holds := traced.holds _ List.mem_cons_self
        have placed : Placed server (operation.apply request t).1.marks (operation.apply request t).2.ledger :=
          .original (by rw [active, holds.wrapper]; rfl)
        obtain ⟨later, events, opened, accounted, kept⟩ := run_placed rest server false base news _ _ []
          (admitted_accounted server base news _ _ traced first) placed
        exact .inr ⟨server, later, events, opened, accounted, kept⟩

def Operation.Leads (operation : Operation) (request : Request) (t : Telemetry) : Prop :=
  ∃ events, (operation.apply request t).2.history = t.history ++ events ∧
    ∀ m ∈ events, ∀ span, m.shown? = some span → Parented (operation.apply request t).1 (operation.apply request t).2 span

theorem silent_leads (operation : Operation) (request : Request) (t : Telemetry)
    (same : (operation.apply request t).2.ledger = t.ledger) : operation.Leads request t :=
  ⟨[], by rw [Telemetry.history, same]; simp [Telemetry.history], by simp⟩

theorem round_leads (operation : Operation) (request : Request) (t : Telemetry) (chain : DecoratorChain) (hook : Hook)
    (span : SpanContext) (noted : (operation.apply request t).2.ledger = t.ledger.note (chain.milestones hook (some span)))
    (active : (operation.apply request t).1.marks.active? = some (.of span)) : operation.Leads request t := by
  refine ⟨chain.milestones hook (some span), congrArg Ledger.history noted, fun m member shown known => ?_⟩
  obtain rfl : span = shown := Option.some.inj ((milestones_shown chain hook span m member).symm.trans known)
  exact parented_active _ _ span active

theorem accounted_leads (operation : Operation) (server : SpanContext) (stopped : Bool) (base news : List Milestone)
    (request : Request) (t : Telemetry) (log : List (Handler × SpanContext))
    (accounted : Accounted server stopped base news request t log) (placed : Placed server request.marks t.ledger)
    (handler : Handler) (handled : operation.handler? = some handler) (unending : operation.completes = false) :
    operation.Leads request t := by
  have holds := accounted.traced.holds request List.mem_cons_self
  have finished := accounted_finished server stopped base news request t log accounted
  rcases leaves_or_continues operation request stopped with leaves | ⟨rfl, owner, owned, active⟩
  · cases resuming : operation.resumes request with
    | true => exact silent_leads operation request t (resuming_rests operation request t resuming).2
    | false =>
        have running : stopped = false := by
          cases flag : stopped with
          | false => rfl
          | true => rcases leaves flag with unhandled | resumes <;> simp_all
        have below := (leaves_active accounted operation leaves).trans (placed_running accounted placed running)
        rw [running] at finished
        cases operation with
        | preHandle coordinator owner =>
            refine round_leads _ request t coordinator.decorators (.preHandle request owner) server ?_ below
            simp only [Operation.apply,
              coordinator.pre_handle_running request owner t server holds.traced resuming holds.wrapper finished,
              HandlerCoordinator.invoke_ledger]
        | asyncStarted coordinator owner =>
            refine round_leads _ request t coordinator.decorators (.asyncStarted request owner) server ?_ below
            simp only [Operation.apply,
              coordinator.async_started_running request owner t server holds.traced holds.wrapper finished,
              HandlerCoordinator.invoke_ledger]
        | _ => simp [Operation.handler?, Operation.completes] at handled unending
  · obtain ⟨span, starts, opened, events, later, continues, kept⟩ :=
      operation_accounts operation server base news request t log accounted owner owned active
    have moves := continues_active operation request t server owner owned active holds.traced holds.wrapper finished
    rw [unending, continues.current] at moves
    refine ⟨events, continues.history, fun m member shown known => ?_⟩
    obtain rfl := continues.alone m member shown known
    exact parented_active _ _ shown moves

theorem unmarked_leads (operation : Operation) (base : List Milestone) (request : Request) (t : Telemetry)
    (spanless : Spanless base ⟨[request], t⟩) (handler : Handler) (handled : operation.handler? = some handler) :
    operation.Leads request t := by
  rcases operation_spanless operation base ⟨[request], t⟩ 0 request spanless rfl with still | ⟨entering, _⟩
  · have same : (operation.apply request t).2.history = t.history := still.history.trans spanless.history.symm
    exact ⟨[], by simpa using same, by simp⟩
  · exact absurd (entering.symm.trans handled) (by simp)

theorem call_handler_active (coordinator : HandlerCoordinator) (handler : Handler) (request next : Request)
    (call : Request → Telemetry → Option Task × Telemetry) (t later : Telemetry) (span : SpanContext)
    (prepared : coordinator.preHandle request handler t = (next, later)) (active : next.marks.active? = some (.of span)) :
    ∃ opened, Service.callHandler coordinator handler request call t =
      Service.guardTask (.of span) (Service.handlerTerminal coordinator handler next) opened
        (call next (later.attach (.of span))).1 (call next (later.attach (.of span))).2.detach := by
  refine ⟨next.marks.spans.filter fun span => !request.marks.spans.contains span, ?_⟩
  simp only [Service.callHandler, prepared, active, Option.getD_some, Telemetry.within]

-- The active context comes with the server span. It is the server span's while
-- that is open, and an open continuation span's if it is not the server span's.
-- And wherever a handler has run its hooks, what comes below the request is
-- below the span that the hooks were shown.
theorem active_context_open (request : Request) (t : Telemetry) (operations : List Operation) (fresh : request.marks = .none) :
    let state := Operation.run operations (request, t)
    state.1.marks.active?.isSome = state.1.marks.wrapper?.isSome ∧
      (∀ server, state.1.marks.wrapper? = some server → Placed server state.1.marks state.2.ledger ∧
        (state.2.isFinished server = false → state.1.marks.active? = some (.of server))) ∧
      ∀ (coordinator : HandlerCoordinator) (handler : Handler),
        (Operation.preHandle coordinator handler).Leads state.1 state.2 ∧
        (Operation.asyncStarted coordinator handler).Leads state.1 state.2 ∧
        ∀ span call, Parented (coordinator.preHandle state.1 handler state.2).1
            (coordinator.preHandle state.1 handler state.2).2 span →
          let next := (coordinator.preHandle state.1 handler state.2).1
          let later := (coordinator.preHandle state.1 handler state.2).2
          ∃ opened, Service.callHandler coordinator handler state.1 call state.2 =
            Service.guardTask (.of span) (Service.handlerTerminal coordinator handler next) opened
              (call next (later.attach (.of span))).1 (call next (later.attach (.of span))).2.detach := by
  intro state
  have start : Spanless t.history ⟨[request], t⟩ := ⟨rfl, by simp [fresh, Marks.none], .inl rfl⟩
  have called := fun (coordinator : HandlerCoordinator) handler span call
      (parented : Parented (coordinator.preHandle state.1 handler state.2).1
        (coordinator.preHandle state.1 handler state.2).2 span) =>
    call_handler_active coordinator handler state.1 _ call state.2 _ span rfl parented.active
  rcases run_unmarked_placed operations t.history request t start (by rw [fresh]; rfl) with
    ⟨spanless, idle⟩ | ⟨server, stopped, news, log, accounted, placed⟩
  · have unmarked := (spanless.unmarked state.1 List.mem_cons_self).1
    refine ⟨by rw [idle, unmarked]; rfl, fun server marked => absurd (unmarked.symm.trans marked) (by simp), ?_⟩
    intro coordinator handler
    exact ⟨unmarked_leads _ _ _ _ spanless handler rfl, unmarked_leads _ _ _ _ spanless handler rfl,
      called coordinator handler⟩
  · have marked := (accounted.traced.holds state.1 List.mem_cons_self).wrapper
    refine ⟨?_, ?_, fun coordinator handler => ⟨?_, ?_, called coordinator handler⟩⟩
    · rw [marked]
      cases placed with
      | original active => rw [active]; rfl
      | continuation _ _ active _ _ => rw [active]; rfl
    · intro span known
      obtain rfl : server = span := Option.some.inj (marked.symm.trans known)
      refine ⟨placed, fun running => placed_running accounted placed ?_⟩
      rw [← accounted_finished server stopped _ news _ _ log accounted, running]
    · exact accounted_leads _ server stopped _ news _ _ log accounted placed handler rfl rfl
    · exact accounted_leads _ server stopped _ news _ _ log accounted placed handler rfl rfl

theorem active_context_open_orders :
    let operations := [.enter plainBoundary, .fail plainBoundary ⟨"out of stock", []⟩, .preHandle plainCoordinator orders]
    let state := Operation.run operations (order, .start .silent false)
    let server := plainBoundary.serverSpan order (.start .silent false)
    let audit : Handler := ⟨"shop::Audit", none⟩
    let next := plainCoordinator.preHandle state.1 audit state.2
    Placed server state.1.marks state.2.ledger ∧ state.1.marks.active? = some (.of ⟨1, 2, true, false, .empty⟩) ∧
      Parented next.1 next.2 ⟨1, 3, true, false, .empty⟩ := by
  intro operations state server audit next
  obtain ⟨_, placed, leads⟩ := active_context_open order (.start .silent false) operations rfl
  refine ⟨(placed server rfl).1, rfl, ?_⟩
  obtain ⟨events, history, shown⟩ := (leads plainCoordinator audit).1
  have known : next.2.history = state.2.history ++ [.started ⟨1, 3, true, false, .empty⟩ (some server) [server],
      .round (.preHandle next.1 audit) (some ⟨1, 3, true, false, .empty⟩)] := rfl
  have round : .round (.preHandle next.1 audit) (some ⟨1, 3, true, false, .empty⟩) ∈ events := by
    rw [List.append_cancel_left (history.symm.trans known)]
    exact List.mem_cons_of_mem _ List.mem_cons_self
  exact shown _ round _ rfl

end RequestSpans
