import RequestSpans.Proofs.Server.Decision

set_option autoImplicit false

namespace RequestSpans

def missingText : String := "no server span on request; install the server tracing layer in front of handlers"

def missingReport (handler : Handler) : Entry := .logged ⟨.error, missingText, [("handler", handler.display)]⟩

def Entry.reportsMissing : Entry → Bool
  | .logged record => record.message = missingText
  | _ => false

def Telemetry.complaints (t : Telemetry) : List String × List Entry :=
  (t.reported, t.journal.filter Entry.reportsMissing)

namespace Telemetry

@[simp] theorem complaints_attach (t : Telemetry) (context : Context) : (t.attach context).complaints = t.complaints := rfl

@[simp] theorem complaints_within {α : Type} (t : Telemetry) (context : Context) (step : Telemetry → α × Telemetry) :
    (t.within context step).2.complaints = (step (t.attach context)).2.complaints := rfl

theorem complaints_record (t : Telemetry) (entry : Entry) (other : entry.reportsMissing = false) :
    (t.record entry).complaints = t.complaints := by
  simp [complaints, record, other]

@[simp] theorem complaints_alter (t : Telemetry) (span : SpanContext) (change : Span → Span) :
    (t.alter span change).complaints = t.complaints := by
  rw [complaints, complaints, reported_alter, journal_alter]

@[simp] theorem complaints_act (t : Telemetry) (span : SpanContext) (actions : List SpanAction) :
    (t.act span actions).complaints = t.complaints := by
  unfold act
  induction actions generalizing t with
  | nil => rfl
  | cons action rest ih => rw [List.foldl_cons, ih, update, complaints_alter]

theorem complaints_log (t : Telemetry) (level : LogLevel) (message : String) (fields : List (String × String)) :
    (t.log level message fields).complaints = (t.record (.logged ⟨level, message, fields⟩)).complaints := by
  cases inside : t.entered with
  | nil => rw [t.log_outside level message fields inside]
  | cons tracer rest =>
      rw [t.log_inside level message fields tracer rest inside]
      split <;> exact complaints_act _ _ _

theorem complaints_other_log (t : Telemetry) (level : LogLevel) (message : String) (fields : List (String × String))
    (other : message ≠ missingText) : (t.log level message fields).complaints = t.complaints := by
  rw [complaints_log, complaints_record _ _ (by simpa [Entry.reportsMissing] using other)]

@[simp] theorem complaints_start (t : Telemetry) (name : String) (kind : SpanKind) (parent : Context)
    (attributes : List Attribute) (links : List SpanContext) :
    (t.startSpan name kind parent attributes links).2.complaints = t.complaints :=
  complaints_record _ _ rfl

@[simp] theorem complaints_end (t : Telemetry) (span : SpanContext) : (t.endSpan span).complaints = t.complaints := by
  unfold endSpan
  split
  · rfl
  · split
    · rfl
    · exact complaints_record _ _ rfl

@[simp] theorem complaints_finish (t : Telemetry) (span : SpanContext) : (t.finish span).2.complaints = t.complaints := by
  unfold finish
  split
  · exact (complaints_other_log _ _ _ _ (by decide)).trans (complaints_record _ _ rfl)
  · simp only [complaints_end, complaints_alter]
    exact complaints_record _ _ rfl

end Telemetry

namespace DecoratorChain

theorem complaints_run_one (hook : Hook) (span? : Option SpanContext) (t : Telemetry) (decorator : Decorator) :
    (runOne hook span? t decorator).complaints = t.complaints := by
  have failed : "span decorator failed" ≠ missingText := by decide
  have called : ∀ sight?, (t.record (.called decorator.name decorator.observed hook sight?)).complaints = t.complaints :=
    fun _ => t.complaints_record _ rfl
  cases span? <;> cases panic : (decorator.react hook).panic? <;>
    simp [runOne, panic, called, Telemetry.complaints_other_log _ _ _ _ failed]

@[simp] theorem complaints_invoke (chain : DecoratorChain) (hook : Hook) (span? : Option SpanContext) (t : Telemetry) :
    (chain.invoke hook span? t).complaints = t.complaints := by
  have calls : ∀ (decorators : List Decorator) (before : Telemetry),
      (decorators.foldl (runOne hook span?) before).complaints = before.complaints := by
    intro decorators
    induction decorators with
    | nil => exact fun _ => rfl
    | cons decorator rest ih => exact fun before => (ih _).trans (complaints_run_one hook span? before decorator)
  exact (calls _ _).trans (t.complaints_record _ rfl)

end DecoratorChain

namespace HandlerCoordinator

variable (coordinator : HandlerCoordinator) (request : Request) (handler : Handler) (t : Telemetry)

@[simp] theorem complaints_invoke (hook : Hook) (span : SpanContext) :
    (coordinator.invoke hook span t).complaints = t.complaints := by
  simp [invoke]

theorem complaints_continue_span (server : SpanContext) :
    (coordinator.continueSpan server handler t).2.complaints = t.complaints := by
  unfold continueSpan
  dsimp only
  rw [Telemetry.complaints_other_log _ _ _ _ (by decide), Telemetry.update, Telemetry.complaints_alter]
  exact Telemetry.complaints_start _ _ _ _ _ _

theorem complaints_resume (server : SpanContext) :
    (coordinator.resume server request handler t).2.2.complaints = t.complaints := by
  cases kept : (request.marks.continuation? handler).filter fun span => !t.isFinished span with
  | some span => simp only [resume, kept]
  | none =>
      simp only [resume, kept]
      exact coordinator.complaints_continue_span handler t server

theorem complaints_report :
    (coordinator.reportMissing handler t).complaints =
      if coordinator.name ∈ t.reported then t.complaints
      else (coordinator.name :: t.reported, t.complaints.2 ++ [missingReport handler]) := by
  unfold reportMissing
  by_cases known : coordinator.name ∈ t.reported
  · simp only [List.contains_eq_mem, known, decide_true, if_true]
  · simp only [List.contains_eq_mem, known, decide_false, Bool.false_eq_true, if_false, Telemetry.complaints_log]
    simp [Telemetry.complaints, Telemetry.record, Entry.reportsMissing, missingText, missingReport]

theorem activate_unentered (undecided : request.entered = false) :
    coordinator.activate request handler t = (none, request, coordinator.reportMissing handler t) := by
  obtain ⟨fresh, unmarked⟩ : request.marks.untraced = false ∧ request.marks.wrapper? = none := by
    simpa [Request.entered] using undecided
  exact coordinator.activate_missing request handler t fresh unmarked

theorem complaints_activate (entered : request.entered = true) :
    (coordinator.activate request handler t).2.2.complaints = t.complaints := by
  cases decided : request.marks.untraced with
  | true => rw [coordinator.activate_untraced request handler t decided]
  | false =>
      obtain ⟨server, marked⟩ : ∃ server, request.marks.wrapper? = some server := by
        simpa [Request.entered, decided, Option.isSome_iff_exists] using entered
      cases stopped : t.isFinished server with
      | false => rw [coordinator.activate_running request handler t server decided marked stopped]
      | true =>
          rw [coordinator.activate_over request handler t server decided marked stopped]
          exact coordinator.complaints_resume request handler t server

theorem complaints_end_continuation (span : SpanContext) :
    (endContinuation span request t).2.complaints = t.complaints := by
  unfold endContinuation
  dsimp only
  split <;> exact t.complaints_finish span

end HandlerCoordinator

namespace Operation

def handledBy? : Operation → Option (HandlerCoordinator × Handler)
  | .preHandle coordinator handler => some (coordinator, handler)
  | .asyncStarted coordinator handler => some (coordinator, handler)
  | .afterCompletion coordinator _ handler _ => some (coordinator, handler)
  | _ => none

theorem complaints_apply (operation : Operation) (coordinator : HandlerCoordinator) (handler : Handler) (request : Request)
    (t : Telemetry) (handled : operation.handledBy? = some (coordinator, handler)) :
    (operation.apply request t).2.complaints =
      if operation.resumes request then t.complaints else (coordinator.activate request handler t).2.2.complaints := by
  cases operation with
  | preHandle own owner =>
      obtain ⟨rfl, rfl⟩ := by simpa only [handledBy?, Option.some.injEq, Prod.mk.injEq] using handled
      cases pending : request.marks.asyncPending with
      | true =>
          simp only [apply, resumes, HandlerCoordinator.preHandle, pending, if_true]
          exact t.complaints_other_log _ _ _ (by decide)
      | false =>
          simp only [apply, resumes, pending, Bool.false_eq_true, if_false, Pairing.pre_handle_activated owner pending]
          split
          · rfl
          · exact own.complaints_invoke _ _ _
  | asyncStarted own owner =>
      obtain ⟨rfl, rfl⟩ := by simpa only [handledBy?, Option.some.injEq, Prod.mk.injEq] using handled
      simp only [apply, resumes, Bool.false_eq_true, if_false, Pairing.async_started_activated]
      split
      · rfl
      · exact own.complaints_invoke _ _ _
  | afterCompletion own response? owner fault? =>
      obtain ⟨rfl, rfl⟩ := by simpa only [handledBy?, Option.some.injEq, Prod.mk.injEq] using handled
      simp only [apply, resumes, Bool.false_eq_true, if_false, Pairing.after_completion_activated]
      split
      · rfl
      · split
        · rw [HandlerCoordinator.complaints_end_continuation, HandlerCoordinator.complaints_invoke]
        · exact own.complaints_invoke _ _ _
  | _ => simp [handledBy?] at handled

theorem unentered_idle (operation : Operation) (coordinator : HandlerCoordinator) (handler : Handler) (request : Request)
    (t : Telemetry) (handled : operation.handledBy? = some (coordinator, handler)) (unentered : request.entered = false) :
    (operation.apply request t).2.ledger = t.ledger ∧
      ∃ pending, (operation.apply request t).1 =
        { request with marks := { request.marks with asyncPending := pending } } := by
  have silent := coordinator.report_missing_ledger handler t
  cases operation with
  | preHandle own owner =>
      obtain ⟨rfl, rfl⟩ := by simpa only [handledBy?, Option.some.injEq, Prod.mk.injEq] using handled
      cases pending : request.marks.asyncPending with
      | true =>
          obtain ⟨moved, same⟩ := own.pre_handle_pending request owner t pending
          exact ⟨same, false, moved⟩
      | false =>
          simp only [apply, HandlerCoordinator.preHandle, pending, own.activate_unentered request owner t unentered,
            Bool.false_eq_true, if_false]
          exact ⟨silent, request.marks.asyncPending, rfl⟩
  | asyncStarted own owner =>
      obtain ⟨rfl, rfl⟩ := by simpa only [handledBy?, Option.some.injEq, Prod.mk.injEq] using handled
      simp only [apply, HandlerCoordinator.asyncStarted, own.activate_unentered request owner t unentered]
      exact ⟨silent, true, rfl⟩
  | afterCompletion own response? owner fault? =>
      obtain ⟨rfl, rfl⟩ := by simpa only [handledBy?, Option.some.injEq, Prod.mk.injEq] using handled
      simp only [apply, HandlerCoordinator.afterCompletion, own.activate_unentered request owner t unentered]
      exact ⟨silent, request.marks.asyncPending, rfl⟩
  | _ => simp [handledBy?] at handled

end Operation

-- What a handler has done to a request. It goes to one of the coordinators of a
-- name, who are clones of one another; `meanwhile` is what the rest of the process
-- has done since the handling before, to which the flag of the clones is private.
structure Handling (name : String) where
  meanwhile : Telemetry → Telemetry
  request : Request
  operation : Operation
  coordinator : HandlerCoordinator
  handler : Handler
  handled : operation.handledBy? = some (coordinator, handler)
  clone : coordinator.name = name
  apart : ∀ t, name ∈ (meanwhile t).reported ↔ name ∈ t.reported

namespace Handling

variable {name : String}

def misses (handling : Handling name) : Bool :=
  !handling.request.entered && !handling.operation.resumes handling.request

def after (handling : Handling name) (t : Telemetry) : Telemetry :=
  (handling.operation.apply handling.request (handling.meanwhile t)).2

def run (handlings : List (Handling name)) (t : Telemetry) : Telemetry :=
  handlings.foldl (fun t handling => handling.after t) t

def reports (handling : Handling name) (t : Telemetry) : List Entry :=
  (handling.after t).complaints.2.drop (handling.meanwhile t).complaints.2.length

def allReports : List (Handling name) → Telemetry → List Entry
  | [], _ => []
  | handling :: rest, t => handling.reports t ++ allReports rest (handling.after t)

theorem after_complaints (handling : Handling name) (t : Telemetry) :
    (handling.after t).complaints =
      if handling.misses && !decide (name ∈ t.reported) then
        (name :: (handling.meanwhile t).reported, (handling.meanwhile t).complaints.2 ++ [missingReport handling.handler])
      else (handling.meanwhile t).complaints := by
  rw [after, handling.operation.complaints_apply handling.coordinator handling.handler handling.request _ handling.handled]
  cases resumed : handling.operation.resumes handling.request with
  | true => simp [misses, resumed]
  | false =>
      cases entered : handling.request.entered with
      | true => simp [misses, entered, handling.coordinator.complaints_activate handling.request handling.handler _ entered]
      | false =>
          have reported := handling.coordinator.complaints_report handling.handler (handling.meanwhile t)
          rw [handling.clone] at reported
          simp only [handling.apart t] at reported
          simp only [Bool.false_eq_true, if_false, misses, resumed, entered, Bool.not_false, Bool.true_and,
            handling.coordinator.activate_unentered handling.request handling.handler _ entered, reported]
          by_cases known : name ∈ t.reported <;> simp [known]

theorem after_reported (handling : Handling name) (t : Telemetry) :
    name ∈ (handling.after t).reported ↔ name ∈ t.reported ∨ handling.misses = true := by
  have flag : (handling.after t).reported = (handling.after t).complaints.1 := rfl
  rw [flag, after_complaints]
  by_cases known : name ∈ t.reported
  · simpa [known, Telemetry.complaints] using (handling.apart t).mpr known
  · cases missed : handling.misses
    · simpa [known, missed, Telemetry.complaints] using fun later => known ((handling.apart t).mp later)
    · simp [known]

theorem reports_first (handling : Handling name) (t : Telemetry) :
    handling.reports t =
      if handling.misses && !decide (name ∈ t.reported) then [missingReport handling.handler] else [] := by
  rw [reports, after_complaints]
  split <;> simp

theorem run_reported (handlings : List (Handling name)) (t : Telemetry) :
    name ∈ (run handlings t).reported ↔ name ∈ t.reported ∨ handlings.any Handling.misses = true := by
  induction handlings generalizing t with
  | nil => simp [run]
  | cons handling rest ih =>
      have later := ih (handling.after t)
      rw [handling.after_reported] at later
      rw [List.any_cons, Bool.or_eq_true, ← or_assoc]
      exact later

theorem all_reports_first (handlings : List (Handling name)) (t : Telemetry) :
    allReports handlings t =
      if name ∈ t.reported then []
      else ((handlings.find? misses).map fun handling => missingReport handling.handler).toList := by
  induction handlings generalizing t with
  | nil => simp [allReports]
  | cons handling rest ih =>
      have known := handling.after_reported t
      rw [allReports, ih, handling.reports_first]
      by_cases before : name ∈ t.reported
      · simp [before, known]
      · cases missed : handling.misses <;> simp [before, known, missed]

-- What the clones report between them at one handling after another, whatever
-- these are: nothing, but for the first one that misses a span.
theorem missing_span_reported_once (t : Telemetry) (unreported : name ∉ t.reported) :
    (∀ (earlier : List (Handling name)) (handling : Handling name), handling.reports (run earlier t) =
      if handling.misses && !earlier.any misses then [missingReport handling.handler] else []) ∧
    (∀ handlings : List (Handling name), allReports handlings t =
      ((handlings.find? misses).map fun handling => missingReport handling.handler).toList) ∧
    ∀ (handling : Handling name) (now : Telemetry), handling.request.entered = false →
      (handling.operation.apply handling.request now).2.ledger = now.ledger ∧
      ∃ pending, (handling.operation.apply handling.request now).1 =
        { handling.request with marks := { handling.request.marks with asyncPending := pending } } := by
  refine ⟨?_, ?_, ?_⟩
  · intro earlier handling
    have reported := run_reported earlier t
    rw [handling.reports_first]
    cases before : earlier.any misses <;> simp [reported, before, unreported]
  · intro handlings
    rw [all_reports_first, if_neg unreported]
  · exact fun handling now unentered =>
      handling.operation.unentered_idle handling.coordinator handling.handler handling.request now handling.handled unentered

def ofOrder (marks : Marks) (decorators : DecoratorChain) (operation : HandlerCoordinator → Operation)
    (handled : (operation ⟨"main", ⟨none⟩, decorators⟩).handledBy? = some (⟨"main", ⟨none⟩, decorators⟩, orders)) :
    Handling "main" :=
  ⟨id, { order with marks := marks }, operation ⟨"main", ⟨none⟩, decorators⟩, ⟨"main", ⟨none⟩, decorators⟩, orders, handled,
    rfl, fun _ => Iff.rfl⟩

def ofOrders : List (Handling "main") :=
  [ofOrder { Marks.none with untraced := true } .empty (.preHandle · orders) rfl,
    ofOrder { Marks.none with asyncPending := true } .empty (.preHandle · orders) rfl,
    ofOrder .none ⟨[HandlerLogs.decorator]⟩ (.asyncStarted · orders) rfl,
    ofOrder { Marks.none with asyncPending := true } .empty (.afterCompletion · none orders none) rfl]

theorem missing_span_reported_once_orders :
    let suspending := ofOrder .none ⟨[HandlerLogs.decorator]⟩ (.asyncStarted · orders) rfl
    suspending.reports (run (ofOrders.take 2) (.start .silent false)) = [missingReport orders] ∧
      allReports ofOrders (.start .silent false) = [missingReport orders] := by
  intro suspending
  have unreported : "main" ∉ (Telemetry.start .silent false).reported := List.not_mem_nil
  obtain ⟨first, total, _⟩ := missing_span_reported_once (Telemetry.start .silent false) unreported
  exact ⟨first (ofOrders.take 2) suspending, total ofOrders⟩

end Handling

end RequestSpans
