import RequestSpans.Proofs.Server.Continuation

set_option autoImplicit false

namespace RequestSpans

structure Continuing (coordinator : HandlerCoordinator) (server : SpanContext) (request : Request) (handler : Handler)
    (t : Telemetry) (span : SpanContext) (reached : Ledger) : Prop where
  resumption : Resumption t.ledger server handler request.marks span reached
  moved : (coordinator.preHandle request handler t).1 = request.continueOn handler span
  decorated : (coordinator.preHandle request handler t).2.ledger = reached.note
    (coordinator.decorators.milestones (.preHandle (request.continueOn handler span) handler) (some span))
  running : (coordinator.preHandle request handler t).2.ledger.standing? span = some ⟨span, false, false⟩
  labelled : Labelled (coordinator.preHandle request handler t).2 server span handler

theorem accounted_finished (server : SpanContext) (stopped : Bool) (base news : List Milestone) (request : Request)
    (t : Telemetry) (log : List (Handler × SpanContext)) (accounted : Accounted server stopped base news request t log) :
    t.isFinished server = stopped := by
  rw [t.is_finished_ledger, Ledger.finished, accounted.traced.tally.standing]
  rfl

theorem accounted_continuing (coordinator : HandlerCoordinator) (handler : Handler) (server : SpanContext)
    (base news : List Milestone) (request : Request) (t : Telemetry) (log : List (Handler × SpanContext))
    (accounted : Accounted server true base news request t log) (resumed : request.marks.asyncPending = false) :
    ∃ span reached, Continuing coordinator server request handler t span reached := by
  have holds := accounted.traced.holds request List.mem_cons_self
  have finished := accounted_finished server true base news request t log accounted
  obtain ⟨span, later, resumes, grows, moved, noted⟩ :=
    coordinator.pre_handle_resumes request handler t server holds.traced resumed holds.wrapper finished
  obtain ⟨starts, opened, obtained, owned, history, running, _⟩ :=
    resumption_accounts server base news request t log accounted handler span later.ledger resumes.resumption
  have labelled := labels_later (.preHandle coordinator handler) request t later server handler request.marks span log opened
    starts accounted.labels resumes grows obtained history (handler, span) owned
  exact ⟨span, later.ledger, resumes.resumption, moved, noted, by rw [noted]; exact running, labelled⟩

theorem accounted_of_finished (request : Request) (t : Telemetry) (operations : List Operation) (server : SpanContext)
    (fresh : request.marks = .none) (marked : (Operation.run operations (request, t)).1.marks.wrapper? = some server)
    (stopped : (Operation.run operations (request, t)).2.isFinished server = true) :
    ∃ news, Accounted server true t.history news (Operation.run operations (request, t)).1
      (Operation.run operations (request, t)).2 (Operation.openings operations request t) := by
  have start : Spanless t.history ⟨[request], t⟩ := ⟨rfl, by simp [fresh, Marks.none], .inl rfl⟩
  rcases run_spanless_accounted operations t.history request t start with
    ⟨spanless, _⟩ | ⟨own, flag, news, accounted⟩
  · exact absurd ((spanless.unmarked _ List.mem_cons_self).1.symm.trans marked) (by simp)
  · have wrapper := (accounted.traced.holds _ List.mem_cons_self).wrapper
    obtain rfl : own = server := Option.some.inj (wrapper.symm.trans marked)
    obtain rfl : flag = true := (accounted_finished own flag _ _ _ _ _ accounted).symm.trans stopped
    exact ⟨news, accounted⟩

-- Once the server span is over, pre-handling goes on with a span of the handler,
-- whoever ended the server span. If the handler, or another, has gone on
-- asynchronously, the first pre-handling thereafter is spent on resuming it; this
-- changes nothing but the mark, and the next one goes on.
theorem pre_handle_after_end (request : Request) (t : Telemetry) (operations : List Operation)
    (coordinator : HandlerCoordinator) (handler : Handler) (fresh : request.marks = .none) :
    let state := Operation.run operations (request, t)
    let next := coordinator.preHandle state.1 handler state.2
    ∀ server, state.1.marks.wrapper? = some server → state.2.isFinished server = true →
      (state.1.marks.asyncPending = false →
        ∃ span reached, Continuing coordinator server state.1 handler state.2 span reached) ∧
      (state.1.marks.asyncPending = true →
        next.1 = { state.1 with marks := { state.1.marks with asyncPending := false } } ∧ next.2.ledger = state.2.ledger ∧
          ∃ span reached, Continuing coordinator server next.1 handler next.2 span reached) := by
  intro state next server marked stopped
  obtain ⟨news, accounted⟩ := accounted_of_finished request t operations server fresh marked stopped
  refine ⟨accounted_continuing coordinator handler server _ _ _ _ _ accounted, ?_⟩
  intro pending
  obtain ⟨moved, same⟩ := coordinator.pre_handle_pending state.1 handler state.2 pending
  refine ⟨moved, same, ?_⟩
  have resumed : next = Operation.run (operations ++ [.preHandle coordinator handler]) (request, t) := by
    rw [Operation.run, List.foldl_append]
    rfl
  obtain ⟨later, account⟩ := accounted_of_finished request t (operations ++ [.preHandle coordinator handler]) server fresh
    (by rw [← resumed, moved]; exact marked) (by
      rw [← resumed, Telemetry.is_finished_ledger, same, ← Telemetry.is_finished_ledger]
      exact stopped)
  rw [← resumed] at account
  exact accounted_continuing coordinator handler server _ _ _ _ _ account (by rw [moved])

theorem pre_handle_after_end_orders :
    let failed := Operation.run [.enter plainBoundary, .fail plainBoundary ⟨"out of stock", []⟩] (order, .start .silent false)
    let cancelled := Operation.run [.enter plainBoundary, .asyncStarted plainCoordinator orders, .cancel plainBoundary]
      (order, .start .silent false)
    let next := plainCoordinator.preHandle cancelled.1 orders cancelled.2
    let server := plainBoundary.serverSpan order (.start .silent false)
    (∃ span reached, Continuing plainCoordinator server failed.1 orders failed.2 span reached) ∧
      next.2.ledger = cancelled.2.ledger ∧ ∃ span reached, Continuing plainCoordinator server next.1 orders next.2 span reached := by
  intro failed cancelled next server
  refine ⟨(pre_handle_after_end order _ _ plainCoordinator orders rfl server rfl rfl).1 rfl, ?_⟩
  exact ((pre_handle_after_end order _ _ plainCoordinator orders rfl server rfl rfl).2 rfl).2

-- The resuming itself gets no span and runs no round, and it leaves the request
-- below the server span that is over.
theorem resuming_after_cancel :
    let state := Operation.run [.enter plainBoundary, .asyncStarted plainCoordinator orders, .cancel plainBoundary]
      (order, .start .silent false)
    let next := plainCoordinator.preHandle state.1 orders state.2
    let server := plainBoundary.serverSpan order (.start .silent false)
    state.1.marks.wrapper? = some server ∧ state.2.isFinished server = true ∧ next.2.history = state.2.history ∧
      next.1.marks.continuation? orders = none ∧ next.1.marks.active? = some (.of server) := by
  exact ⟨rfl, rfl, rfl, rfl, rfl⟩

namespace Operation

def isIdle : Operation → Bool
  | .enter _ => true
  | .complete _ _ => true
  | _ => false

def visits : List Operation → Request × Telemetry → List (Operation × Request × Telemetry)
  | [], _ => []
  | operation :: rest, state => (operation, state) :: visits rest (operation.apply state.1 state.2)

theorem visits_append (first second : List Operation) (state : Request × Telemetry) :
    visits (first ++ second) state = visits first state ++ visits second (run first state) := by
  induction first generalizing state with
  | nil => rfl
  | cons operation rest ih =>
      simp only [List.cons_append, visits, ih]
      rfl

def Idles (server : SpanContext) (operation : Operation) (request : Request) (t : Telemetry) : Prop :=
  match operation with
  | .enter boundary => boundary.enter request t = (.redispatch server, request, t)
  | .complete boundary response =>
      (boundary.complete request response t).ledger = t.ledger ∧ t.ledger.standing? server = some ⟨server, false, false⟩
  | _ => True

end Operation

structure Passes (server : SpanContext) (operations : List Operation) (request : Request) (t : Telemetry) (next : Request)
    (events : List Milestone) : Prop where
  travels : (Operation.run operations (request, t)).1 = next
  noted : (Operation.run operations (request, t)).2.ledger = t.ledger.note events
  idles : ∀ visit ∈ Operation.visits operations (request, t), visit.1.Idles server visit.2.1 visit.2.2

theorem passes_none (server : SpanContext) (request : Request) (t : Telemetry) : Passes server [] request t request [] :=
  ⟨rfl, (Ledger.note_nil t.ledger).symm, by simp [Operation.visits]⟩

theorem passes_single (server : SpanContext) (operation : Operation) (request next : Request) (t : Telemetry)
    (events : List Milestone) (travels : (operation.apply request t).1 = next)
    (noted : (operation.apply request t).2.ledger = t.ledger.note events) (idles : operation.Idles server request t) :
    Passes server [operation] request t next events :=
  ⟨travels, noted, by simpa [Operation.visits] using idles⟩

theorem passes_round (server : SpanContext) (operation : Operation) (request next : Request) (t : Telemetry)
    (coordinator : HandlerCoordinator) (hook : Hook)
    (ran : operation.apply request t = (next, coordinator.invoke hook server t)) (idles : operation.Idles server request t) :
    Passes server [operation] request t next (coordinator.decorators.milestones hook (some server)) := by
  refine passes_single server operation request next t _ ?_ ?_ idles
  · rw [ran]
  · rw [ran]
    exact coordinator.invoke_ledger hook server t

theorem passes_append (server : SpanContext) (first second : List Operation) (request between next : Request) (t : Telemetry)
    (early late : List Milestone) (before : Passes server first request t between early)
    (after : ∀ later : Telemetry, later.ledger = t.ledger.note early → Passes server second between later next late) :
    Passes server (first ++ second) request t next (early ++ late) := by
  obtain ⟨travels, noted, idles⟩ := after (Operation.run first (request, t)).2 before.noted
  have reached : Operation.run first (request, t) = (between, (Operation.run first (request, t)).2) :=
    Prod.ext before.travels rfl
  have split : Operation.run (first ++ second) (request, t) =
      Operation.run second (between, (Operation.run first (request, t)).2) := by
    rw [← reached]
    exact List.foldl_append
  refine ⟨?_, ?_, ?_⟩
  · rw [split, travels]
  · rw [split, noted, before.noted, Ledger.note_note]
  · intro visit member
    rw [Operation.visits_append, List.mem_append, reached] at member
    exact member.elim (before.idles visit) (idles visit)

structure UnderWay (server : SpanContext) (request : Request) (t : Telemetry) : Prop where
  undecided : request.marks.untraced = false
  marked : request.marks.wrapper? = some server
  present : request.marks.asyncPending = false
  running : t.ledger.standing? server = some ⟨server, false, false⟩

def Request.suspended (request : Request) : Request :=
  { request with marks := { request.marks with asyncPending := true } }

section Steps

variable (server : SpanContext) (request : Request) (t : Telemetry) (underway : UnderWay server request t)

include underway

theorem underway_running : t.isFinished server = false := by
  rw [t.is_finished_ledger, Ledger.finished, underway.running]
  rfl

theorem underway_later (later : Telemetry) (events : List Milestone) (same : later.ledger = t.ledger.note events) :
    UnderWay server request later := by
  refine ⟨underway.undecided, underway.marked, underway.present, ?_⟩
  rw [same]
  exact underway.running

theorem passes_pre_handle (coordinator : HandlerCoordinator) (handler : Handler) :
    Passes server [.preHandle coordinator handler] request t request
      (coordinator.decorators.milestones (.preHandle request handler) (some server)) :=
  passes_round server _ request request t coordinator _ (coordinator.pre_handle_running request handler t server
    underway.undecided underway.present underway.marked (underway_running server request t underway)) trivial

theorem passes_async_started (coordinator : HandlerCoordinator) (handler : Handler) :
    Passes server [.asyncStarted coordinator handler] request t request.suspended
      (coordinator.decorators.milestones (.asyncStarted request handler) (some server)) :=
  passes_round server _ request request.suspended t coordinator _ (coordinator.async_started_running request handler t server
    underway.undecided underway.marked (underway_running server request t underway)) trivial

theorem passes_after_completion (coordinator : HandlerCoordinator) (handler : Handler) (response? : Option Response)
    (fault? : Option Fault) (apart : request.marks.continuation? handler ≠ some server) :
    Passes server [.afterCompletion coordinator response? handler fault?] request t request
      (coordinator.decorators.milestones (.afterCompletion request handler response? fault?) (some server)) :=
  passes_round server _ request request t coordinator _ (coordinator.after_completion_running request response? handler fault?
    t server underway.undecided underway.marked (underway_running server request t underway) apart) trivial

theorem passes_resume (coordinator : HandlerCoordinator) (handler : Handler) :
    Passes server [.preHandle coordinator handler] request.suspended t request [] := by
  obtain ⟨moved, same⟩ := coordinator.pre_handle_pending request.suspended handler t rfl
  refine passes_single server _ _ request t [] ?_ ?_ trivial
  · refine moved.trans ?_
    simp only [Request.suspended, ← underway.present]
  · rw [Ledger.note_nil]
    exact same

theorem passes_idle (operation : Operation) (idle : operation.isIdle = true) :
    Passes server [operation] request.suspended t request.suspended [] := by
  cases operation with
  | enter boundary =>
      have again := boundary.enter_again request.suspended t server underway.marked
      refine passes_single server _ _ _ t [] ?_ ?_ again
      · rw [Operation.apply, again]
      · rw [Operation.apply, again, Ledger.note_nil]
  | complete boundary response =>
      have kept : (boundary.complete request.suspended response t).ledger = t.ledger := by
        simp [ServerBoundary.complete, Request.suspended]
      refine passes_single server _ _ _ t [] rfl ?_ ⟨kept, underway.running⟩
      rw [Ledger.note_nil]
      exact kept
  | fail _ _ => simp [Operation.isIdle] at idle
  | cancel _ => simp [Operation.isIdle] at idle
  | preHandle _ _ => simp [Operation.isIdle] at idle
  | asyncStarted _ _ => simp [Operation.isIdle] at idle
  | afterCompletion _ _ _ _ => simp [Operation.isIdle] at idle
  | finish => simp [Operation.isIdle] at idle

end Steps

-- The time between a handler's going on asynchronously and its being resumed.
-- The request may be entered and completed any number of times in it, in any
-- order.
structure Suspension where
  meanwhile : List Operation
  idle : ∀ operation ∈ meanwhile, operation.isIdle = true

def Suspension.operations (suspension : Suspension) (coordinator : HandlerCoordinator) (handler : Handler) :
    List Operation :=
  .asyncStarted coordinator handler :: (suspension.meanwhile ++ [.preHandle coordinator handler])

theorem passes_idles (server : SpanContext) (request : Request) (meanwhile : List Operation)
    (idle : ∀ operation ∈ meanwhile, operation.isIdle = true) (t : Telemetry) (underway : UnderWay server request t) :
    Passes server meanwhile request.suspended t request.suspended [] := by
  induction meanwhile generalizing t with
  | nil => exact passes_none server request.suspended t
  | cons operation rest ih =>
      have first := passes_idle server request t underway operation (idle operation List.mem_cons_self)
      refine passes_append server [operation] rest _ _ _ t [] [] first fun later same => ?_
      exact ih (fun other member => idle other (List.mem_cons_of_mem _ member)) later
        (underway_later server request t underway later [] same)

theorem passes_suspension (server : SpanContext) (request : Request) (t : Telemetry) (underway : UnderWay server request t)
    (coordinator : HandlerCoordinator) (handler : Handler) (suspension : Suspension) :
    Passes server (suspension.operations coordinator handler) request t request
      (coordinator.decorators.milestones (.asyncStarted request handler) (some server)) := by
  have left := passes_async_started server request t underway coordinator handler
  rw [← List.append_nil (coordinator.decorators.milestones _ _)]
  refine passes_append server [.asyncStarted coordinator handler] _ _ _ _ t _ [] left fun away same => ?_
  have gone := underway_later server request t underway away _ same
  have waited := passes_idles server request suspension.meanwhile suspension.idle away gone
  refine passes_append server suspension.meanwhile _ _ _ _ away [] [] waited fun back same => ?_
  exact passes_resume server request back (underway_later server request away gone back [] same) coordinator handler

theorem passes_suspensions (server : SpanContext) (request : Request) (coordinator : HandlerCoordinator) (handler : Handler)
    (suspensions : List Suspension) (t : Telemetry) (underway : UnderWay server request t) :
    Passes server (suspensions.flatMap fun suspension => suspension.operations coordinator handler) request t request
      (List.replicate suspensions.length
        (coordinator.decorators.milestones (.asyncStarted request handler) (some server))).flatten := by
  induction suspensions generalizing t with
  | nil => exact passes_none server request t
  | cons suspension rest ih =>
      have first := passes_suspension server request t underway coordinator handler suspension
      rw [List.flatMap_cons, List.length_cons, List.replicate_succ, List.flatten_cons]
      refine passes_append server _ _ request request request t _ _ first fun later same => ?_
      exact ih later (underway_later server request t underway later _ same)

def handling (coordinator : HandlerCoordinator) (handler : Handler) (suspensions : List Suspension)
    (response? : Option Response) (fault? : Option Fault) : List Operation :=
  .preHandle coordinator handler :: ((suspensions.flatMap fun suspension => suspension.operations coordinator handler) ++
    [.afterCompletion coordinator response? handler fault?])

def handlingRounds (coordinator : HandlerCoordinator) (handler : Handler) (suspensions : List Suspension)
    (response? : Option Response) (fault? : Option Fault) (server : SpanContext) (request : Request) : List Milestone :=
  coordinator.decorators.milestones (.preHandle request handler) (some server) ++
    ((List.replicate suspensions.length
      (coordinator.decorators.milestones (.asyncStarted request handler) (some server))).flatten ++
    coordinator.decorators.milestones (.afterCompletion request handler response? fault?) (some server))

theorem passes_handling (server : SpanContext) (request : Request) (t : Telemetry) (underway : UnderWay server request t)
    (coordinator : HandlerCoordinator) (handler : Handler) (suspensions : List Suspension) (response? : Option Response)
    (fault? : Option Fault) (apart : request.marks.continuation? handler ≠ some server) :
    Passes server (handling coordinator handler suspensions response? fault?) request t request
      (handlingRounds coordinator handler suspensions response? fault? server request) := by
  have began := passes_pre_handle server request t underway coordinator handler
  refine passes_append server [.preHandle coordinator handler] _ _ _ _ t _ _ began fun later same => ?_
  have on := underway_later server request t underway later _ same
  have went := passes_suspensions server request coordinator handler suspensions later on
  refine passes_append server _ [_] _ _ _ later _ _ went fun last same => ?_
  have still := underway_later server request later on last _ same
  exact passes_after_completion server request last still coordinator handler response? fault? apart

theorem enter_under_way (boundary : ServerBoundary) (request : Request) (t : Telemetry) (fresh : request.marks = .none) :
    UnderWay (boundary.serverSpan request t) (request.withServer (boundary.serverSpan request t))
      (boundary.openSpan request t).2.2 := by
  refine ⟨congrArg Marks.untraced fresh, rfl, congrArg Marks.asyncPending fresh, ?_⟩
  rw [boundary.open_span_ledger, Ledger.standing_note]
  exact Ledger.standing_start_new _ _ _ _ (t.next_context_next _)

theorem complete_closes (boundary : ServerBoundary) (response : Response) (server : SpanContext) (request : Request)
    (t : Telemetry) (underway : UnderWay server request t) :
    (boundary.complete request response t).ledger =
      (t.ledger.note (boundary.decorators.milestones (.response request response) (some server))).close server := by
  rw [ServerBoundary.complete, if_neg (by simp [underway.present])]
  exact boundary.close_running request _ _ t server underway.marked (underway_running server request t underway)

theorem bracket_rounds (l : Ledger) (span : SpanContext) (parent? : Option SpanContext) (rounds : List Milestone)
    (next : l.Next span) :
    (((l.start span parent? []).note rounds).close span).history =
        l.history ++ (.started span parent? [] :: (rounds ++ [.finishing span true, .ended span])) ∧
      (((l.start span parent? []).note rounds).close span).standing? span = some ⟨span, true, true⟩ := by
  have running : ((l.start span parent? []).note rounds).standing? span = some ⟨span, false, false⟩ :=
    Ledger.standing_start_new l span parent? [] next
  refine ⟨?_, Ledger.standing_close_self _ span _ running⟩
  rw [Ledger.close_history, Ledger.closure_running _ span false running]
  simp [Ledger.note, Ledger.start]

-- However often a handler goes on asynchronously, and however often the request
-- is entered and completed while it is away, the server span gets one round for
-- each stage, and it ends with the completion behind the handler's.
theorem suspended_request_ends_once (boundary : ServerBoundary) (coordinator : HandlerCoordinator) (handler : Handler)
    (suspensions : List Suspension) (response? : Option Response) (fault? : Option Fault) (response : Response)
    (request : Request) (t : Telemetry) (fresh : request.marks = .none) (traced : boundary.traces request = true) :
    let server := boundary.serverSpan request t
    let entered := request.withServer server
    let stages := handling coordinator handler suspensions response? fault?
    let rounds := boundary.decorators.milestones (.request entered) (some server) ++
      (handlingRounds coordinator handler suspensions response? fault? server entered ++
        boundary.decorators.milestones (.response entered response) (some server))
    let state := Operation.run (.enter boundary :: (stages ++ [.complete boundary response])) (request, t)
    (boundary.enter request t).1 = .started server ∧ state.1 = entered ∧
      state.2.history = t.history ++
        (.started server (boundary.parent request t).span? [] :: (rounds ++ [.finishing server true, .ended server])) ∧
      state.2.ledger.standing? server = some ⟨server, true, true⟩ ∧
      ∀ visit ∈ Operation.visits stages (boundary.enter request t).2, visit.1.Idles server visit.2.1 visit.2.2 := by
  intro server entered stages rounds state
  have admitted := boundary.enter_traced request t (by rw [fresh]; rfl) (by rw [fresh]; rfl) traced
  have underway := enter_under_way boundary request t fresh
  have apart : entered.marks.continuation? handler ≠ some server := by
    rw [Marks.continuation?, show entered.marks.continuations = [] from congrArg Marks.continuations fresh]
    simp
  obtain ⟨travels, noted, idles⟩ := passes_handling server entered (boundary.openSpan request t).2.2 underway coordinator
    handler suspensions response? fault? apart
  have reached : state = (entered, boundary.complete entered response
      (Operation.run stages (entered, (boundary.openSpan request t).2.2)).2) := by
    have split : state = (Operation.complete boundary response).apply (Operation.run stages (boundary.enter request t).2).1
        (Operation.run stages (boundary.enter request t).2).2 := by
      simp only [state, Operation.run, List.foldl_cons, List.foldl_append, List.foldl_nil]
      rfl
    rw [split, admitted, Operation.apply, travels]
  have still := underway_later server entered _ underway _ _ noted
  have closed : state.2.ledger =
      ((t.ledger.start server (boundary.parent request t).span? []).note rounds).close server := by
    rw [reached, complete_closes boundary response server entered _ still, noted, boundary.open_span_ledger, Ledger.note_note,
      Ledger.note_note]
  obtain ⟨history, standing⟩ := bracket_rounds t.ledger server (boundary.parent request t).span? rounds (t.next_context_next _)
  refine ⟨by rw [admitted], by rw [reached], ?_, ?_, by rw [admitted]; exact idles⟩
  · rw [Telemetry.history, closed]
    exact history
  · rw [closed]
    exact standing

def Milestone.roundName? : Milestone → Option String
  | .round hook _ => some hook.name
  | _ => none

theorem suspended_request_ends_once_orders :
    let early : Suspension := ⟨[.complete plainBoundary ⟨.ok, .empty, ""⟩, .enter plainBoundary], by decide⟩
    let quiet : Suspension := ⟨[], by decide⟩
    let stages := handling plainCoordinator orders [early, quiet] none none
    let state := Operation.run (.enter plainBoundary :: (stages ++ [.complete plainBoundary ⟨.ok, .empty, ""⟩]))
      (order, .start .silent false)
    state.1 = order.withServer (plainBoundary.serverSpan order (.start .silent false)) ∧
      state.2.history.filterMap Milestone.roundName? =
        ["on_request", "on_pre_handle", "on_async_started", "on_async_started", "on_after_completion", "on_response"] := by
  intro early quiet stages state
  obtain ⟨_, travels, history, _⟩ := suspended_request_ends_once plainBoundary plainCoordinator orders [early, quiet] none none
    ⟨.ok, .empty, ""⟩ order (.start .silent false) rfl rfl
  exact ⟨travels, by rw [history]; rfl⟩

end RequestSpans
