import RequestSpans.Proofs.Server.ActiveContext
import RequestSpans.Proofs.Server.HandlerChain

/-!
Handlers that run one inside another: each is pre-handled before those inside of it and completes
after them. As long as the server span is open, the request stays below it throughout. Once that is
over each handler runs below a span of its own, and every completion leads back to the server span,
also where the handler around it is still running.
-/
set_option autoImplicit false

namespace RequestSpans

-- Handlers in the order they run in: the first with those inside of it, and those
-- that come later.
inductive Calls where
  | none
  | handled (stage : Stage) (inside later : Calls)

namespace Calls

def operations : Calls → List Operation
  | .none => []
  | .handled stage inside later => stage.preHandle :: (inside.operations ++ stage.afterCompletion :: later.operations)

def handlers : Calls → List Handler
  | .none => []
  | .handled stage inside later => stage.handler :: (inside.handlers ++ later.handlers)

end Calls

-- A handler's run, from just before it is pre-handled to just after it completes.
-- `outer?` is the handler around it; it leads if it is the first to run there.
structure Visit where
  stage : Stage
  outer? : Option Handler
  leads : Bool
  before : Request × Telemetry
  after : Request × Telemetry

namespace Calls

def visits (outer? : Option Handler) (leads : Bool) : Calls → Request × Telemetry → List Visit
  | .none, _ => []
  | .handled stage inside later, state =>
    let entered := Operation.run [stage.preHandle] state
    let left := Operation.run (stage.preHandle :: (inside.operations ++ [stage.afterCompletion])) state
    ⟨stage, outer?, leads, state, left⟩ ::
      (inside.visits (some stage.handler) true entered ++ later.visits outer? false left)

end Calls

theorem resumption_keeps (l after : Ledger) (server span other : SpanContext) (handler : Handler) (marks : Marks)
    (resumption : Resumption l server handler marks span after) (stopped : l.finished other = true) :
    after.finished other = true := by
  cases resumption with
  | reused held running => exact stopped
  | opened gone next trace => exact l.finished_start span other _ _ stopped

theorem handled_finished (operation : Operation) (server : SpanContext) (stopped : Bool) (base news : List Milestone)
    (request : Request) (t : Telemetry) (log : List (Handler × SpanContext))
    (accounted : Accounted server stopped base news request t log) (handler : Handler)
    (handled : operation.handler? = some handler) : (operation.apply request t).2.isFinished server = stopped := by
  have holds := accounted.traced.holds request List.mem_cons_self
  have finished := accounted_finished server stopped base news request t log accounted
  rw [Telemetry.is_finished_ledger] at finished ⊢
  cases resuming : operation.resumes request with
  | true => rw [(resuming_rests operation request t resuming).2, finished]
  | false =>
      cases stopped with
      | true =>
          obtain ⟨span, later, rounds, resumes, _, _, noted⟩ := operation.operation_continues request t server handler handled
            resuming holds.traced holds.wrapper (t.is_finished_ledger server ▸ finished)
          have kept := resumption_keeps _ _ server span server handler _ resumes.resumption finished
          rw [noted]
          split
          · exact Ledger.finished_close _ span server (by rw [Ledger.finished_note, kept])
          · rw [Ledger.finished_note, kept]
      | false =>
          have running : t.isFinished server = false := t.is_finished_ledger server ▸ finished
          have apart := holds_apart server false news request t accounted.traced.tally holds server
          cases operation with
          | preHandle coordinator owner =>
              simp only [Operation.apply,
                coordinator.pre_handle_running request owner t server holds.traced resuming holds.wrapper running,
                HandlerCoordinator.invoke_ledger, Ledger.finished_note, finished]
          | asyncStarted coordinator owner =>
              simp only [Operation.apply,
                coordinator.async_started_running request owner t server holds.traced holds.wrapper running,
                HandlerCoordinator.invoke_ledger, Ledger.finished_note, finished]
          | afterCompletion coordinator response? owner fault? =>
              simp only [Operation.apply, coordinator.after_completion_running request response? owner fault? t server
                  holds.traced holds.wrapper running (apart owner holds.wrapper running),
                HandlerCoordinator.invoke_ledger, Ledger.finished_note, finished]
          | _ => simp [Operation.handler?] at handled

theorem activate_pending (coordinator : HandlerCoordinator) (request : Request) (handler : Handler) (t : Telemetry) :
    (coordinator.activate request handler t).2.1.marks.asyncPending = request.marks.asyncPending := by
  unfold HandlerCoordinator.activate
  split
  · rfl
  · split
    · rfl
    · dsimp only
      split <;> rfl

theorem entered_pending (stage : Stage) (request : Request) (t : Telemetry) (present : request.marks.asyncPending = false) :
    (stage.preHandle.apply request t).1.marks.asyncPending = false := by
  have activated := activate_pending stage.coordinator request stage.handler t
  simp only [Stage.preHandle, Operation.apply, HandlerCoordinator.preHandle, present, Bool.false_eq_true, if_false]
  split <;> simp_all

theorem completed_pending (stage : Stage) (request : Request) (t : Telemetry)
    (present : request.marks.asyncPending = false) :
    (stage.afterCompletion.apply request t).1.marks.asyncPending = false := by
  have activated := activate_pending stage.coordinator request stage.handler t
  simp only [Stage.afterCompletion, Operation.apply, HandlerCoordinator.afterCompletion]
  split
  · simp_all
  · split
    · unfold HandlerCoordinator.endContinuation
      dsimp only
      split <;> simp_all
    · simp_all

def Midway (server : SpanContext) (stopped : Bool) (state : Request × Telemetry) : Prop :=
  ∃ base news log, Accounted server stopped base news state.1 state.2 log ∧ Placed server state.1.marks state.2.ledger

section Steps

variable {server : SpanContext} {stopped : Bool} {state : Request × Telemetry} (midway : Midway server stopped state)

include midway

theorem midway_step (operation : Operation) (handler : Handler) (handled : operation.handler? = some handler) :
    Midway server stopped (operation.apply state.1 state.2) := by
  obtain ⟨base, news, log, accounted, placed⟩ := midway
  obtain ⟨later, events, opened, next, moved⟩ :=
    step_placed operation server stopped base news state.1 state.2 log accounted placed
  have same := handled_finished operation server stopped base news state.1 state.2 log accounted handler handled
  obtain rfl : later = stopped := (accounted_finished server later base _ _ _ _ next).symm.trans same
  exact ⟨base, _, _, next, moved⟩

theorem midway_run (operations : List Operation) (handled : ∀ operation ∈ operations, operation.handler?.isSome = true) :
    Midway server stopped (Operation.run operations state) := by
  induction operations generalizing state with
  | nil => exact midway
  | cons operation rest ih =>
      obtain ⟨first, others⟩ := List.forall_mem_cons.mp handled
      obtain ⟨handler, known⟩ := Option.isSome_iff_exists.mp first
      exact ih (midway_step midway operation handler known) others

theorem midway_running (running : stopped = false) : Parented state.1 state.2 server := by
  obtain ⟨base, news, log, accounted, placed⟩ := midway
  exact parented_active _ _ server (placed_running accounted placed running)

theorem midway_completion (stage : Stage) (ended : stopped = true) :
    let next := stage.afterCompletion.apply state.1 state.2
    Parented next.1 next.2 server := by
  obtain ⟨base, news, log, accounted, _⟩ := midway
  have holds := accounted.traced.holds state.1 List.mem_cons_self
  have finished := accounted_finished server stopped base news _ _ log accounted
  exact parented_active _ _ server (continues_active stage.afterCompletion state.1 state.2 server stage.handler rfl rfl
    holds.traced holds.wrapper (finished.trans ended))

theorem midway_entered (stage : Stage) (ended : stopped = true) (present : state.1.marks.asyncPending = false) :
    let next := stage.preHandle.apply state.1 state.2
    ∃ span, span ≠ server ∧ next.1.marks.continuation? stage.handler = some span ∧ Parented next.1 next.2 span := by
  intro next
  obtain ⟨_, _, _, after, _⟩ := midway_step midway stage.preHandle stage.handler rfl
  obtain ⟨base, news, log, accounted, _⟩ := midway
  subst ended
  obtain ⟨span, reached, continuing⟩ :=
    accounted_continuing stage.coordinator stage.handler server base news state.1 state.2 log accounted present
  have moved : next.1 = state.1.continueOn stage.handler span := continuing.moved
  refine ⟨span, ?_, ?_, parented_active _ _ span (by rw [moved]; rfl)⟩
  · rintro rfl
    have finished := accounted_finished span true _ _ _ _ _ after
    rw [Telemetry.is_finished_ledger, Ledger.finished, show next.2.ledger.standing? span = _ from continuing.running] at finished
    contradiction
  · rw [moved]
    exact put_continuation_self _ stage.handler span

end Steps

theorem operations_handled (calls : Calls) (operation : Operation) (member : operation ∈ calls.operations) :
    operation.handler?.isSome = true := by
  induction calls with
  | none => simp [Calls.operations] at member
  | handled stage inside later first others =>
      simp only [Calls.operations, List.mem_cons, List.mem_append] at member
      rcases member with rfl | known | rfl | known
      · rfl
      · exact first known
      · rfl
      · exact others known

theorem calls_pending (calls : Calls) (state : Request × Telemetry) (present : state.1.marks.asyncPending = false) :
    (Operation.run calls.operations state).1.marks.asyncPending = false := by
  induction calls generalizing state with
  | none => exact present
  | handled stage inside later first others =>
      have entered := entered_pending stage state.1 state.2 present
      have left := completed_pending stage _ (Operation.run inside.operations (stage.preHandle.apply state.1 state.2)).2
        (first (stage.preHandle.apply state.1 state.2) entered)
      simpa only [Calls.operations, Operation.run, List.foldl_cons, List.foldl_append] using others _ left

section Handled

variable (stage : Stage) (inside : Calls) (state : Request × Telemetry)

theorem handled_run : Operation.run (stage.preHandle :: (inside.operations ++ [stage.afterCompletion])) state =
    stage.afterCompletion.apply (Operation.run (stage.preHandle :: inside.operations) state).1
      (Operation.run (stage.preHandle :: inside.operations) state).2 := by
  simp only [Operation.run, List.foldl_cons, List.foldl_append, List.foldl_nil]

theorem handled_midway (server : SpanContext) (stopped : Bool) (midway : Midway server stopped state) :
    Midway server stopped (Operation.run (stage.preHandle :: inside.operations) state) := by
  refine midway_run midway _ fun operation member => ?_
  rcases List.mem_cons.mp member with rfl | known
  · rfl
  · exact operations_handled inside operation known

end Handled

-- By induction on the handlers, first inside and then on.
theorem visits_midway (calls : Calls) (server : SpanContext) (stopped : Bool) (outer? : Option Handler) (leads : Bool)
    (state : Request × Telemetry) (midway : Midway server stopped state) :
    ∀ visit ∈ calls.visits outer? leads state, Midway server stopped visit.before ∧
      ∃ left, Midway server stopped left ∧ visit.after = visit.stage.afterCompletion.apply left.1 left.2 := by
  induction calls generalizing outer? leads state with
  | none => simp [Calls.visits]
  | handled stage inside later first others =>
      have entered := midway_step midway stage.preHandle stage.handler rfl
      have through := handled_midway stage inside state server stopped midway
      have completed := midway_step through stage.afterCompletion stage.handler rfl
      rw [← handled_run] at completed
      intro visit member
      simp only [Calls.visits, List.mem_cons, List.mem_append] at member
      rcases member with rfl | known | known
      · exact ⟨midway, _, through, handled_run stage inside state⟩
      · exact first (some stage.handler) true _ entered visit known
      · exact others outer? false _ completed visit known

-- Below which span a handler finds the request that it is about to handle: if it
-- is the first of all, wherever that was before; if it is the first inside of
-- another, below the span of that one; and below the server span otherwise.
inductive Finds (server : SpanContext) (start : Request × Telemetry) (outer? : Option Handler) (leads : Bool)
    (state : Request × Telemetry) : Prop
  | first (alone : outer? = none) (leading : leads = true) (same : state = start)
  | inside (outer : Handler) (span : SpanContext) (around : outer? = some outer) (leading : leads = true)
      (apart : span ≠ server) (kept : state.1.marks.continuation? outer = some span)
      (parented : Parented state.1 state.2 span)
  | later (following : leads = false) (parented : Parented state.1 state.2 server)

theorem visits_find (calls : Calls) (server : SpanContext) (start : Request × Telemetry) (outer? : Option Handler)
    (leads : Bool) (state : Request × Telemetry) (midway : Midway server true state)
    (present : state.1.marks.asyncPending = false) (finds : Finds server start outer? leads state) :
    ∀ visit ∈ calls.visits outer? leads state, Finds server start visit.outer? visit.leads visit.before := by
  induction calls generalizing outer? leads state with
  | none => simp [Calls.visits]
  | handled stage inside later first others =>
      have entered := midway_step midway stage.preHandle stage.handler rfl
      have here := entered_pending stage state.1 state.2 present
      obtain ⟨span, apart, kept, below⟩ := midway_entered midway stage rfl present
      have through := handled_midway stage inside state server true midway
      have still := calls_pending inside (stage.preHandle.apply state.1 state.2) here
      have completed := midway_step through stage.afterCompletion stage.handler rfl
      have back := midway_completion through stage rfl
      have after := completed_pending stage _ (Operation.run inside.operations (stage.preHandle.apply state.1 state.2)).2 still
      rw [← handled_run] at completed
      intro visit member
      simp only [Calls.visits, List.mem_cons, List.mem_append] at member
      rcases member with rfl | known | known
      · exact finds
      · exact first (some stage.handler) true _ entered here (.inside stage.handler span rfl rfl apart kept below) visit known
      · refine others outer? false _ completed ?_ (.later rfl ?_) visit known
        · rw [handled_run]
          exact after
        · rw [handled_run]
          exact back

def Visit.Restores (visit : Visit) : Prop := visit.after.1.marks.active? = visit.before.1.marks.active?

theorem restores_iff (server : SpanContext) (start : Request × Telemetry) (visit : Visit)
    (back : Parented visit.after.1 visit.after.2 server) (finds : Finds server start visit.outer? visit.leads visit.before) :
    visit.Restores ↔ visit.leads = false ∨ visit.outer? = none ∧ start.1.marks.active? = some (.of server) := by
  rw [Visit.Restores, back.active]
  cases finds with
  | first alone leading same => simp [alone, leading, same, eq_comm]
  | inside outer span around leading apart kept parented =>
      rw [parented.active]
      simp [around, leading, Context.of, apart.symm]
  | later following parented =>
      rw [parented.active]
      simp [following]

-- While the server span is open, a handler's completion leaves the request where
-- its pre-handling found it, which is below the server span. Once that is over,
-- every completion leads to the server span. So it does not lead back for the
-- first handler that runs inside of another: that one came from the span of the
-- handler around it, which is still running. A resumption is pending only until
-- the first pre-handling, which does nothing then but resume.
theorem completion_leads_to_server (request : Request) (t : Telemetry) (operations : List Operation) (calls : Calls)
    (server : SpanContext) (fresh : request.marks = .none) :
    let state := Operation.run operations (request, t)
    state.1.marks.wrapper? = some server → ∀ visit ∈ calls.visits none true state,
      Parented visit.after.1 visit.after.2 server ∧
      (state.2.isFinished server = false → Parented visit.before.1 visit.before.2 server) ∧
      (state.2.isFinished server = true → state.1.marks.asyncPending = false →
        Finds server state visit.outer? visit.leads visit.before ∧
        (visit.Restores ↔ visit.leads = false ∨ visit.outer? = none ∧ state.1.marks.active? = some (.of server))) := by
  intro state marked visit member
  have start : Spanless t.history ⟨[request], t⟩ := ⟨rfl, by simp [fresh, Marks.none], .inl rfl⟩
  rcases run_unmarked_placed operations t.history request t start (by rw [fresh]; rfl) with
    ⟨spanless, _⟩ | ⟨own, stopped, news, log, accounted, placed⟩
  · exact absurd ((spanless.unmarked state.1 List.mem_cons_self).1.symm.trans marked) (by simp)
  · obtain rfl : own = server :=
      Option.some.inj ((accounted.traced.holds state.1 List.mem_cons_self).wrapper.symm.trans marked)
    have flag : state.2.isFinished own = stopped := accounted_finished own stopped _ news _ _ log accounted
    have midway : Midway own stopped state := ⟨_, news, log, accounted, placed⟩
    obtain ⟨before, left, through, completed⟩ := visits_midway calls own stopped none true state midway visit member
    have back : Parented visit.after.1 visit.after.2 own := by
      rw [completed]
      cases stopped with
      | true => exact midway_completion through visit.stage rfl
      | false => exact midway_running (midway_step through visit.stage.afterCompletion visit.stage.handler rfl) rfl
    refine ⟨back, fun running => midway_running before (flag.symm.trans running), fun ended present => ?_⟩
    obtain rfl : stopped = true := flag.symm.trans ended
    have finds := visits_find calls own state none true state midway present (.first rfl rfl rfl) visit member
    exact ⟨finds, restores_iff own state visit back finds⟩

def mailStage : Stage := ⟨plainCoordinator, ⟨"shop::Mail", none⟩, none, none⟩

def nestedCalls : Calls := .handled ordersStage (.handled auditStage .none (.handled mailStage .none .none)) .none

theorem completion_leads_to_server_orders :
    let operations := [.enter plainBoundary, .fail plainBoundary ⟨"out of stock", []⟩]
    let state := Operation.run operations (order, .start .silent false)
    let server := plainBoundary.serverSpan order (.start .silent false)
    state.1.marks.wrapper? = some server ∧ state.2.isFinished server = true ∧ state.1.marks.asyncPending = false ∧
      ∀ visit ∈ nestedCalls.visits none true state, Parented visit.after.1 visit.after.2 server ∧
        (visit.Restores ↔ visit.leads = false ∨ visit.outer? = none ∧ state.1.marks.active? = some (.of server)) := by
  intro operations state server
  refine ⟨rfl, rfl, rfl, fun visit member => ?_⟩
  obtain ⟨back, _, leads⟩ :=
    completion_leads_to_server order (.start .silent false) operations nestedCalls server rfl rfl visit member
  exact ⟨back, (leads rfl rfl).2⟩

-- A handler completes inside of another after a failure. Before, local child
-- spans were below the span of the handler around it; now they are below the
-- server span, though the handler around it has not completed.
theorem nested_completion_forgets_outer :
    let nested := Calls.handled ordersStage (.handled auditStage .none .none) .none
    let state := Operation.run [.enter plainBoundary, .fail plainBoundary ⟨"out of stock", []⟩] (order, .start .silent false)
    let server := plainBoundary.serverSpan order (.start .silent false)
    let outer : SpanContext := ⟨1, 2, true, false, .empty⟩
    nested.handlers.Nodup ∧ state.2.isFinished server = true ∧
      ∃ visit ∈ nested.visits none true state, visit.stage.handler = audit ∧ visit.outer? = some orders ∧
        visit.before.1.marks.continuation? orders = some outer ∧ visit.after.2.isFinished outer = false ∧
        visit.before.1.marks.active? = some (.of outer) ∧ visit.after.1.marks.active? = some (.of server) ∧ outer ≠ server := by
  intro nested state server outer
  refine ⟨by decide, rfl, _, List.mem_cons_of_mem _ List.mem_cons_self, rfl, rfl, rfl, rfl, rfl, rfl, by decide⟩

end RequestSpans
