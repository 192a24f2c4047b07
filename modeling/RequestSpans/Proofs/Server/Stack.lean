import RequestSpans.Proofs.Schedule
import RequestSpans.Proofs.Server.Boundary
import RequestSpans.Proofs.Server.Coordinator
import RequestSpans.Service

set_option autoImplicit false

namespace RequestSpans

def Signal.response? : Signal → Option Response
  | .success response => some response
  | _ => none

def Signal.fault? : Signal → Option Fault
  | .failure fault => some fault
  | _ => none

abbrev Answer := Bool → Request → Telemetry → Work × Telemetry

namespace Answer

def serve (answer : Answer) : Serve := fun ready request t =>
  let (work, t) := answer ready request t
  (some work, t)

def Spares (answer : Answer) (span : SpanContext) : Prop :=
  ∀ ready request, RequestSpans.Spares span (fun t => (answer ready request t).2) ∧
    ∀ t, (answer ready request t).1.Spares span

end Answer

namespace Stack

def handlers : List (HandlerCoordinator × Handler) → Service → Service
  | [], below => below
  | (coordinator, handler) :: rest, below => .traceHandler coordinator handler (handlers rest below)

def service (boundary : ServerBoundary) (layers : List (HandlerCoordinator × Handler)) (below : Service) : Service :=
  .traceServer boundary (handlers layers below)

def preHandles (layers : List (HandlerCoordinator × Handler)) (request : Request) (span : SpanContext) : List Milestone :=
  layers.flatMap fun (coordinator, handler) =>
    coordinator.decorators.milestones (.preHandle request handler) (some span)

def opening (boundary : ServerBoundary) (layers : List (HandlerCoordinator × Handler)) (request : Request)
    (span : SpanContext) : List Milestone :=
  boundary.decorators.milestones (.request request) (some span) ++ preHandles layers request span

def afterCompletions (layers : List (HandlerCoordinator × Handler)) (request : Request) (span : SpanContext)
    (signal : Signal) : List Milestone :=
  layers.reverse.flatMap fun (coordinator, handler) =>
    coordinator.decorators.milestones (.afterCompletion request handler signal.response? signal.fault?) (some span)

-- The last round is run for a response or an error; a dropped request gets none.
def verdict (boundary : ServerBoundary) (request : Request) (span : SpanContext) : Signal → List Milestone
  | .success response => boundary.decorators.milestones (.response request response) (some span)
  | .failure fault => boundary.decorators.milestones (.error request fault) (some span)
  | .cancelled => []

def closing (boundary : ServerBoundary) (layers : List (HandlerCoordinator × Handler)) (request : Request)
    (span : SpanContext) (signal : Signal) : List Milestone :=
  afterCompletions layers request span signal ++ verdict boundary request span signal

def handlerGuard (request : Request) (span : SpanContext) (layer : HandlerCoordinator × Handler) : TerminalGuard :=
  .new (.of span) (Service.handlerTerminal layer.1 layer.2 request)

def guards (boundary : ServerBoundary) (layers : List (HandlerCoordinator × Handler)) (request : Request)
    (span : SpanContext) : List TerminalGuard :=
  .new (.of span) (Service.serverTerminal boundary request) :: layers.map (handlerGuard request span)

def admitted (span : SpanContext) : Marks := ⟨false, false, some span, some (.of span), []⟩

theorem with_server_marks (request : Request) (span : SpanContext) (fresh : request.marks = .none) :
    (request.withServer span).marks = admitted span := by
  simp [Request.withServer, fresh, Marks.none, admitted]

theorem rounds_ended {α : Type} (members : List α) (round : α → List Milestone) (span : SpanContext)
    (silent : ∀ member, .ended span ∉ round member) : .ended span ∉ members.flatMap round := by
  simp [List.mem_flatMap, silent]

theorem opening_ended (boundary : ServerBoundary) (layers : List (HandlerCoordinator × Handler)) (request : Request)
    (span : SpanContext) : .ended span ∉ opening boundary layers request span := by
  rw [opening, List.mem_append, not_or]
  exact ⟨DecoratorChain.milestones_ended _ _ _ span,
    rounds_ended layers _ span fun _ => DecoratorChain.milestones_ended _ _ _ span⟩

theorem closing_ended (boundary : ServerBoundary) (layers : List (HandlerCoordinator × Handler)) (request : Request)
    (span : SpanContext) (signal : Signal) : .ended span ∉ closing boundary layers request span signal := by
  rw [closing, List.mem_append, not_or]
  refine ⟨rounds_ended layers.reverse _ span fun _ => DecoratorChain.milestones_ended _ _ _ span, ?_⟩
  cases signal with
  | success response => exact DecoratorChain.milestones_ended _ _ _ span
  | failure fault => exact DecoratorChain.milestones_ended _ _ _ span
  | cancelled => exact List.not_mem_nil

-- Down the stack every layer runs its round, and its guard is put around the
-- task of those below. The server span is open all the way, so no layer opens
-- a span of its own and all of them hand on the same request.
theorem dispatch_handlers (layers : List (HandlerCoordinator × Handler)) (ready : Bool) (answer : Answer)
    (request : Request) (span : SpanContext) (before : Nat) (t : Telemetry) (marks : request.marks = admitted span)
    (unfinished : t.ledger.Open span before) :
    ∃ called dispatched, called.ledger = t.ledger.note (preHandles layers request span) ∧
      dispatched.ledger = (answer ready request called).2.ledger ∧
      (handlers layers (.innermost ready answer.serve)).dispatch request t =
        (some (Task.guardedBy (layers.map (handlerGuard request span)) (.ofWork (answer ready request called).1)),
          dispatched) := by
  induction layers generalizing t with
  | nil => exact ⟨t, (answer ready request t).2, by simp [preHandles, Ledger.note], rfl, rfl⟩
  | cons layer rest ih =>
      obtain ⟨coordinator, handler⟩ := layer
      have running := t.is_finished_open span before unfinished
      have prepared := coordinator.pre_handle_running request handler t span (by rw [marks]; rfl) (by rw [marks]; rfl)
        (by rw [marks]; rfl) running
      have active : request.marks.active? = some (.of span) := by rw [marks]; rfl
      have still : ((coordinator.invoke (.preHandle request handler) span t).attach (.of span)).ledger.Open span before := by
        rw [Telemetry.ledger_attach, HandlerCoordinator.invoke_ledger]
        exact DecoratorChain.open_milestones _ _ _ _ span before unfinished
      obtain ⟨called, dispatched, noted, answered, below⟩ := ih _ still
      refine ⟨called, dispatched.detach, ?_, answered, ?_⟩
      · rw [noted, Telemetry.ledger_attach, HandlerCoordinator.invoke_ledger, Ledger.note_note]
        rfl
      · simp only [handlers, Service.dispatch, Service.callHandler, prepared, active, Option.getD_some, Telemetry.within,
          below, Service.guardTask, Task.propagate]
        rfl

theorem handler_concludes (layer : HandlerCoordinator × Handler) (request : Request) (span : SpanContext)
    (outcome? : Option Outcome) (t : Telemetry) (marks : request.marks = admitted span)
    (unfinished : t.ledger.wrapper? span = some (span, false)) :
    ((handlerGuard request span layer).conclude outcome? t).ledger =
      t.ledger.note (layer.1.decorators.milestones
        (.afterCompletion request layer.2 (Signal.settled outcome?).response? (Signal.settled outcome?).fault?)
        (some span)) := by
  have running := (t.attach (.of span)).is_finished_wrapper span false unfinished
  have completed := fun response? fault? => layer.1.after_completion_running request response? layer.2 fault? _ span
    (by rw [marks]; rfl) (by rw [marks]; rfl) running (by rw [marks]; simp [Marks.continuation?, admitted])
  rw [handlerGuard, conclude_new]
  cases Signal.settled outcome? <;>
    simp only [Service.handlerTerminal, Signal.response?, Signal.fault?, completed, HandlerCoordinator.invoke_ledger,
      Telemetry.ledger_attach]

theorem handlers_conclude (layers : List (HandlerCoordinator × Handler)) (request : Request) (span : SpanContext)
    (outcome? : Option Outcome) (l : Ledger) (marks : request.marks = admitted span)
    (unfinished : l.wrapper? span = some (span, false)) :
    Task.Concluded outcome? (layers.map (handlerGuard request span)) l
      (l.note (afterCompletions layers request span (.settled outcome?))) := by
  induction layers with
  | nil => simp [Task.Concluded, afterCompletions, Ledger.note]
  | cons layer rest ih =>
      refine ⟨_, ih, ?_⟩
      intro t inside
      rw [handler_concludes layer request span outcome? t marks (by rw [inside]; exact unfinished), inside, Ledger.note_note]
      simp [afterCompletions]

theorem server_concludes (boundary : ServerBoundary) (request : Request) (span : SpanContext) (outcome? : Option Outcome)
    (t : Telemetry) (marks : request.marks = admitted span) (unfinished : t.ledger.wrapper? span = some (span, false)) :
    ((TerminalGuard.new (.of span) (Service.serverTerminal boundary request)).conclude outcome? t).ledger =
      (t.ledger.note (verdict boundary request span (.settled outcome?))).close span := by
  have running := (t.attach (.of span)).is_finished_wrapper span false unfinished
  have marked : request.marks.wrapper? = some span := by rw [marks]; rfl
  have resumed : request.marks.asyncPending = false := by rw [marks]; rfl
  rw [conclude_new]
  cases Signal.settled outcome? with
  | success response =>
      simp only [Service.serverTerminal, ServerBoundary.complete, resumed, Bool.false_eq_true, if_false]
      exact ServerBoundary.close_running boundary request _ _ _ span marked running
  | failure fault => exact ServerBoundary.close_running boundary request _ _ _ span marked running
  | cancelled =>
      simp only [Service.serverTerminal, ServerBoundary.cancel_running boundary request _ span marked running,
        verdict, Ledger.note, List.append_nil, Telemetry.ledger_attach]

theorem guards_conclude (boundary : ServerBoundary) (layers : List (HandlerCoordinator × Handler)) (request : Request)
    (span : SpanContext) (outcome? : Option Outcome) (l : Ledger) (marks : request.marks = admitted span)
    (unfinished : l.wrapper? span = some (span, false)) :
    Task.Concluded outcome? (guards boundary layers request span) l
      ((l.note (closing boundary layers request span (.settled outcome?))).close span) := by
  refine ⟨_, handlers_conclude layers request span outcome? l marks unfinished, ?_⟩
  intro t inside
  rw [server_concludes boundary request span outcome? t marks (by rw [inside]; exact unfinished), inside,
    Ledger.note_note, closing]

theorem guard_contexts (boundary : ServerBoundary) (layers : List (HandlerCoordinator × Handler)) (request : Request)
    (span : SpanContext) :
    (guards boundary layers request span).map TerminalGuard.context = List.replicate (layers.length + 1) (.of span) := by
  simp [guards, handlerGuard, TerminalGuard.new, List.replicate_succ, Function.comp_def, List.map_const']

theorem server_span_open (boundary : ServerBoundary) (request : Request) (t : Telemetry) :
    (t.ledger.start (boundary.serverSpan request t) (boundary.parent request t).span? []).Open
      (boundary.serverSpan request t) (t.history.count (.ended (boundary.serverSpan request t))) :=
  Ledger.open_start _ _ _ _ (Telemetry.next_context_next t _)

theorem dispatch_service (boundary : ServerBoundary) (layers : List (HandlerCoordinator × Handler)) (ready : Bool)
    (answer : Answer) (request : Request) (span : SpanContext) (t : Telemetry) (fresh : request.marks = .none)
    (traced : boundary.traces request = true) (server : span = boundary.serverSpan request t) :
    ∃ called dispatched,
      called.ledger = (t.ledger.start span (boundary.parent request t).span? []).note
        (opening boundary layers (request.withServer span) span) ∧
      dispatched.ledger = (answer ready (request.withServer span) called).2.ledger ∧
      (service boundary layers (.innermost ready answer.serve)).dispatch request t =
        (some (Task.guardedBy (guards boundary layers (request.withServer span) span)
          (.ofWork (answer ready (request.withServer span) called).1)), dispatched) := by
  subst server
  have entered := boundary.enter_traced request t (by rw [fresh]; rfl) (by rw [fresh]; rfl) traced
  have opened := boundary.open_span_ledger request t
  have unfinished : ((boundary.openSpan request t).2.2.attach (.of (boundary.serverSpan request t))).ledger.Open
      (boundary.serverSpan request t) (t.history.count (.ended (boundary.serverSpan request t))) := by
    rw [Telemetry.ledger_attach, opened]
    exact DecoratorChain.open_milestones _ _ _ _ _ _ (server_span_open boundary request t)
  obtain ⟨called, dispatched, noted, answered, below⟩ :=
    dispatch_handlers layers ready answer _ _ _ _ (with_server_marks request _ fresh) unfinished
  refine ⟨called, dispatched.detach, ?_, answered, ?_⟩
  · rw [noted, Telemetry.ledger_attach, opened, Ledger.note_note]
    rfl
  · simp only [service, Service.dispatch, Service.callServer, entered, Telemetry.within, below, Service.guardTask,
      Task.propagate]
    rfl

-- `bare` is the same work under the same schedule, in the context of the span
-- but with no guard around it: what the stack hands back is what it hands back,
-- and the ledger differs from its ledger by the closing rounds and the end of
-- the span alone.
theorem stack_brackets_work (boundary : ServerBoundary) (layers : List (HandlerCoordinator × Handler)) (ready : Bool)
    (answer : Answer) (request : Request) (span : SpanContext) (t : Telemetry) (fresh : request.marks = .none)
    (traced : boundary.traces request = true) (server : span = boundary.serverSpan request t)
    (spares : answer.Spares span) :
    ∃ called dispatched task,
      called.ledger = (t.ledger.start span (boundary.parent request t).span? []).note
        (opening boundary layers (request.withServer span) span) ∧
      dispatched.ledger = (answer ready (request.withServer span) called).2.ledger ∧
      (service boundary layers (.innermost ready answer.serve)).dispatch request t = (some task, dispatched) ∧
      ∀ (meanwhile : Nat → Telemetry → Telemetry) (polls : Nat), (∀ left, Spares span (meanwhile left)) →
        let work := Task.ofWork (answer ready (request.withServer span) called).1
        let bare := (Task.scopedBy (.replicate (layers.length + 1) (.of span)) work).drive meanwhile polls dispatched
        let run := task.drive meanwhile polls dispatched
        run.1 = bare.1 ∧
          run.2.ledger = (bare.2.ledger.note
            (closing boundary layers (request.withServer span) span (.settled bare.1))).close span ∧
          run.2.ledger.Closed span (t.history.count (.ended span) + 1) := by
  obtain ⟨called, dispatched, noted, answered, guarded⟩ :=
    dispatch_service boundary layers ready answer request span t fresh traced server
  refine ⟨called, dispatched, _, noted, answered, guarded, ?_⟩
  intro meanwhile polls company work bare run
  have reached : called.ledger.Open span (t.history.count (.ended span)) := by
    rw [noted, server]
    exact Ledger.open_note _ _ _ _ (opening_ended boundary layers _ _) (server_span_open boundary request t)
  have returned : dispatched.ledger.Open span (t.history.count (.ended span)) := by
    rw [answered]
    exact (spares ready (request.withServer span)).1 called _ reached
  have unfinished : bare.2.ledger.Open span (t.history.count (.ended span)) :=
    Task.drive_work_open meanwhile polls _ _ 0 span _ dispatched company ((spares ready _).2 called) returned
  have concluded := guards_conclude boundary layers (request.withServer span) span bare.1 bare.2.ledger
    (with_server_marks request span fresh) (Ledger.open_wrapper _ span _ unfinished)
  obtain ⟨same, ledger⟩ := Task.drive_guarded_by meanwhile polls
    (guards boundary layers (request.withServer span) span) work dispatched _ (by rw [guard_contexts]; exact concluded)
  rw [guard_contexts] at same
  have closed := Ledger.close_open _ span _
    (Ledger.open_note _ span _ _ (closing_ended boundary layers (request.withServer span) span (.settled bare.1)) unfinished)
  refine ⟨same, ledger, ?_⟩
  rw [ledger]
  exact closed

def stockCheck : Work :=
  ⟨fun polls t =>
    (if polls = 0 then .pending else .ready (.error ⟨"out of stock", []⟩), t.log .info "checking stock" [])⟩

theorem stock_check_spares (span : SpanContext) : stockCheck.Spares span := by
  intro polls t before unfinished
  change (t.log .info "checking stock" []).ledger.Open span before
  rw [Telemetry.ledger_log]
  exact unfinished

def shopLayers : List (HandlerCoordinator × Handler) :=
  [(⟨"audit", ⟨none⟩, ⟨[HandlerLogs.decorator]⟩⟩, ⟨"shop::Audit", none⟩),
    (⟨"api", ⟨none⟩, .empty⟩, ⟨"shop::Orders", some "list"⟩)]

theorem stack_brackets_stock_check : ∃ task dispatched,
    (service plainBoundary shopLayers (.innermost true (Answer.serve fun _ _ t => (stockCheck, t)))).dispatch order
      (.start .silent false) = (some task, dispatched) ∧
    (task.drive (fun _ t => t) 2 dispatched).1 = some (.error ⟨"out of stock", []⟩) ∧
    (task.drive (fun _ t => t) 2 dispatched).2.history.count
      (.ended (plainBoundary.serverSpan order (.start .silent false))) = 1 := by
  obtain ⟨called, dispatched, task, _, _, guarded, run⟩ :=
    stack_brackets_work plainBoundary shopLayers true (fun _ _ t => (stockCheck, t)) order _ (.start .silent false) rfl rfl rfl
      fun _ _ => ⟨fun _ _ unfinished => unfinished, fun _ => stock_check_spares _⟩
  obtain ⟨outcome, _, ended⟩ := run (fun _ t => t) 2 fun _ _ _ unfinished => unfinished
  exact ⟨task, dispatched, guarded, outcome, ended.2⟩

end Stack

end RequestSpans
