import Mathlib.Data.List.Nodup
import RequestSpans.Proofs.Server.Suspension

set_option autoImplicit false

namespace RequestSpans

structure Stage where
  coordinator : HandlerCoordinator
  handler : Handler
  response? : Option Response
  fault? : Option Fault

namespace Stage

def preHandle (stage : Stage) : Operation := .preHandle stage.coordinator stage.handler

def asyncStarted (stage : Stage) : Operation := .asyncStarted stage.coordinator stage.handler

def afterCompletion (stage : Stage) : Operation :=
  .afterCompletion stage.coordinator stage.response? stage.handler stage.fault?

def preHandleRound (server : SpanContext) (request : Request) (stage : Stage) : List Milestone :=
  stage.coordinator.decorators.milestones (.preHandle request stage.handler) (some server)

def asyncStartedRound (server : SpanContext) (request : Request) (stage : Stage) : List Milestone :=
  stage.coordinator.decorators.milestones (.asyncStarted request stage.handler) (some server)

def afterCompletionRound (server : SpanContext) (request : Request) (stage : Stage) : List Milestone :=
  stage.coordinator.decorators.milestones
    (.afterCompletion request stage.handler stage.response? stage.fault?) (some server)

end Stage

-- A chain of handlers that goes on asynchronously: each is entered and leaves,
-- the request is dispatched again, each is entered once more, and they complete
-- from the last to the first.
def asyncChain (boundary : ServerBoundary) (stages : List Stage) : List Operation :=
  stages.map Stage.preHandle ++ (stages.map Stage.asyncStarted ++
    (.enter boundary :: (stages.map Stage.preHandle ++ stages.reverse.map Stage.afterCompletion)))

def asyncChainRounds (server : SpanContext) (request : Request) (first : Stage) (others : List Stage) : List Milestone :=
  (first :: others).flatMap (Stage.preHandleRound server request) ++
    (first.asyncStartedRound server request ++ others.flatMap (Stage.asyncStartedRound server request.suspended) ++
      (others.flatMap (Stage.preHandleRound server request) ++
        (first :: others).reverse.flatMap (Stage.afterCompletionRound server request)))

theorem passes_each (server : SpanContext) (request current : Request) (operation : Stage → Operation)
    (rounds : Stage → List Milestone) (stages : List Stage)
    (each : ∀ stage ∈ stages, ∀ t, UnderWay server request t →
      Passes server [operation stage] current t current (rounds stage))
    (t : Telemetry) (underway : UnderWay server request t) :
    Passes server (stages.map operation) current t current (stages.flatMap rounds) := by
  induction stages generalizing t with
  | nil => exact passes_none server current t
  | cons stage rest ih =>
      have first := each stage List.mem_cons_self t underway
      rw [List.flatMap_cons]
      refine passes_append server [operation stage] (rest.map operation) _ _ _ t _ _ first fun later same => ?_
      exact ih (fun other member => each other (List.mem_cons_of_mem _ member)) later
        (underway_later server request t underway later _ same)

theorem passes_async_started_again (server : SpanContext) (request : Request) (t : Telemetry)
    (underway : UnderWay server request t) (coordinator : HandlerCoordinator) (handler : Handler) :
    Passes server [.asyncStarted coordinator handler] request.suspended t request.suspended
      (coordinator.decorators.milestones (.asyncStarted request.suspended handler) (some server)) :=
  passes_round server _ request.suspended request.suspended t coordinator _
    (coordinator.async_started_running request.suspended handler t server underway.undecided underway.marked
      (underway_running server request t underway)) trivial

theorem passes_all_leave (server : SpanContext) (request : Request) (first : Stage) (others : List Stage) (t : Telemetry)
    (underway : UnderWay server request t) :
    Passes server ((first :: others).map Stage.asyncStarted) request t request.suspended
      (first.asyncStartedRound server request ++ others.flatMap (Stage.asyncStartedRound server request.suspended)) := by
  have left := passes_async_started server request t underway first.coordinator first.handler
  refine passes_append server [first.asyncStarted] _ _ _ _ t _ _ left fun later same => ?_
  refine passes_each server request request.suspended Stage.asyncStarted _ others (fun stage _ t on => ?_) later
    (underway_later server request t underway later _ same)
  exact passes_async_started_again server request t on stage.coordinator stage.handler

theorem passes_all_enter (server : SpanContext) (request : Request) (stages : List Stage) (t : Telemetry)
    (underway : UnderWay server request t) :
    Passes server (stages.map Stage.preHandle) request t request (stages.flatMap (Stage.preHandleRound server request)) :=
  passes_each server request request Stage.preHandle _ stages
    (fun stage _ t on => passes_pre_handle server request t on stage.coordinator stage.handler) t underway

-- The mark has no owner. Once the first handler has taken it, the others are
-- entered as though they had never been.
theorem passes_all_return (server : SpanContext) (request : Request) (first : Stage) (others : List Stage) (t : Telemetry)
    (underway : UnderWay server request t) :
    Passes server ((first :: others).map Stage.preHandle) request.suspended t request
      (others.flatMap (Stage.preHandleRound server request)) := by
  have resumed := passes_resume server request t underway first.coordinator first.handler
  refine passes_append server [first.preHandle] _ _ _ _ t [] _ resumed fun later same => ?_
  exact passes_all_enter server request others later (underway_later server request t underway later [] same)

theorem passes_async_chain (boundary : ServerBoundary) (server : SpanContext) (request : Request) (first : Stage)
    (others : List Stage) (t : Telemetry) (underway : UnderWay server request t)
    (apart : ∀ handler, request.marks.continuation? handler ≠ some server) :
    Passes server (asyncChain boundary (first :: others)) request t request
      (asyncChainRounds server request first others) := by
  have entered := passes_all_enter server request (first :: others) t underway
  refine passes_append server _ _ _ _ _ t _ _ entered fun gone same => ?_
  have on := underway_later server request t underway gone _ same
  have left := passes_all_leave server request first others gone on
  refine passes_append server _ _ _ _ _ gone _ _ left fun back same => ?_
  have away := underway_later server request gone on back _ same
  have dispatched := passes_idle server request back away (.enter boundary) rfl
  refine passes_append server [.enter boundary] _ _ _ _ back [] _ dispatched fun again same => ?_
  have present := underway_later server request back away again [] same
  have returned := passes_all_return server request first others again present
  refine passes_append server _ _ _ _ _ again _ _ returned fun last same => ?_
  refine passes_each server request request Stage.afterCompletion _ _ (fun stage _ t on => ?_) last
    (underway_later server request again present last _ same)
  exact passes_after_completion server request t on stage.coordinator stage.handler stage.response? stage.fault?
    (apart stage.handler)

namespace Milestone

def preHandled? : Milestone → Option Handler
  | .round (.preHandle _ handler) _ => some handler
  | _ => none

def completed? : Milestone → Option Handler
  | .round (.afterCompletion _ handler _ _) _ => some handler
  | _ => none

end Milestone

theorem milestones_handled (chain : DecoratorChain) (hook : Hook) (span? : Option SpanContext)
    (handled? : Milestone → Option Handler) (calls : ∀ name, handled? (.called name hook span?) = none) :
    (chain.milestones hook span?).filterMap handled? = (handled? (.round hook span?)).toList := by
  have silent : (chain.decorators.map fun decorator => Milestone.called decorator.name hook span?).filterMap handled? = [] := by
    simp [calls]
  rw [DecoratorChain.milestones, List.filterMap_cons, silent]
  cases handled? (.round hook span?) <;> rfl

theorem handled_each (stages : List Stage) (rounds : Stage → List Milestone) (handled? : Milestone → Option Handler)
    (each : ∀ stage, (rounds stage).filterMap handled? = [stage.handler]) :
    (stages.flatMap rounds).filterMap handled? = stages.map Stage.handler := by
  rw [List.filterMap_flatMap, List.map_eq_flatMap]
  simp only [each]

theorem handled_none (stages : List Stage) (rounds : Stage → List Milestone) (handled? : Milestone → Option Handler)
    (none_ : ∀ stage, (rounds stage).filterMap handled? = []) : (stages.flatMap rounds).filterMap handled? = [] := by
  simp [List.filterMap_flatMap, none_, List.flatMap_eq_nil_iff]

section Handled

variable (server : SpanContext) (request : Request) (first : Stage) (others : List Stage)

theorem async_chain_pre_handled :
    (asyncChainRounds server request first others).filterMap Milestone.preHandled? =
      (first :: others).map Stage.handler ++ others.map Stage.handler := by
  have entered : ∀ stage : Stage, (stage.preHandleRound server request).filterMap Milestone.preHandled? = [stage.handler] :=
    fun stage => milestones_handled stage.coordinator.decorators _ _ _ fun _ => rfl
  have left : ∀ (request : Request) (stage : Stage),
      (stage.asyncStartedRound server request).filterMap Milestone.preHandled? = [] :=
    fun _ stage => milestones_handled stage.coordinator.decorators _ _ _ fun _ => rfl
  have completed : ∀ stage : Stage, (stage.afterCompletionRound server request).filterMap Milestone.preHandled? = [] :=
    fun stage => milestones_handled stage.coordinator.decorators _ _ _ fun _ => rfl
  simp only [asyncChainRounds, List.filterMap_append, handled_each _ _ _ entered, handled_none _ _ _ (left _), left,
    handled_none _ _ _ completed, List.nil_append, List.append_nil]

theorem async_chain_completed :
    (asyncChainRounds server request first others).filterMap Milestone.completed? =
      (first :: others).reverse.map Stage.handler := by
  have entered : ∀ stage : Stage, (stage.preHandleRound server request).filterMap Milestone.completed? = [] :=
    fun stage => milestones_handled stage.coordinator.decorators _ _ _ fun _ => rfl
  have left : ∀ (request : Request) (stage : Stage),
      (stage.asyncStartedRound server request).filterMap Milestone.completed? = [] :=
    fun _ stage => milestones_handled stage.coordinator.decorators _ _ _ fun _ => rfl
  have completed : ∀ stage : Stage,
      (stage.afterCompletionRound server request).filterMap Milestone.completed? = [stage.handler] :=
    fun stage => milestones_handled stage.coordinator.decorators _ _ _ fun _ => rfl
  simp only [asyncChainRounds, List.filterMap_append, handled_none _ _ _ entered, handled_none _ _ _ (left _), left,
    handled_each _ _ _ completed, List.nil_append]

end Handled

theorem handled_counts (first : Stage) (others : List Stage) (distinct : ((first :: others).map Stage.handler).Nodup)
    (stage : Stage) (member : stage ∈ first :: others) :
    ((first :: others).map Stage.handler ++ others.map Stage.handler).count stage.handler =
        (if stage.handler = first.handler then 1 else 2) ∧
      ((first :: others).reverse.map Stage.handler).count stage.handler = 1 := by
  have listed : stage.handler ∈ (first :: others).map Stage.handler := List.mem_map_of_mem member
  obtain ⟨absent, rest⟩ := List.nodup_cons.mp distinct
  have once : ((first :: others).map Stage.handler).count stage.handler = 1 := List.count_eq_one_of_mem distinct listed
  refine ⟨?_, ?_⟩
  · rw [List.count_append, once]
    by_cases leads : stage.handler = first.handler
    · rw [if_pos leads, leads, List.count_eq_zero.mpr absent]
    · have behind : stage.handler ∈ others.map Stage.handler := (List.mem_cons.mp listed).resolve_left leads
      rw [if_neg leads, List.count_eq_one_of_mem rest behind]
  · rw [List.map_reverse, List.count_reverse, once]

theorem handled_once_iff (first : Stage) (others : List Stage) (distinct : ((first :: others).map Stage.handler).Nodup) :
    (∀ stage ∈ first :: others,
      ((first :: others).map Stage.handler ++ others.map Stage.handler).count stage.handler = 1) ↔ others = [] := by
  constructor
  · intro once
    cases others with
    | nil => rfl
    | cons second rest =>
        have member : second ∈ first :: second :: rest := List.mem_cons_of_mem _ List.mem_cons_self
        have twice := (handled_counts first (second :: rest) distinct second member).1
        have apart : second.handler ≠ first.handler := by
          intro same
          exact (List.nodup_cons.mp distinct).1 (same ▸ List.mem_cons_self)
        rw [once second member, if_neg apart] at twice
        contradiction
  · rintro rfl stage member
    obtain rfl : stage = first := List.mem_singleton.mp member
    simp

theorem passes_bracketed (boundary : ServerBoundary) (response : Response) (request : Request) (t : Telemetry)
    (stages : List Operation) (events : List Milestone) (fresh : request.marks = .none)
    (traced : boundary.traces request = true) :
    let server := boundary.serverSpan request t
    let entered := request.withServer server
    let state := Operation.run (.enter boundary :: (stages ++ [.complete boundary response])) (request, t)
    let rounds := boundary.decorators.milestones (.request entered) (some server) ++
      (events ++ boundary.decorators.milestones (.response entered response) (some server))
    Passes server stages entered (boundary.openSpan request t).2.2 entered events →
      state.1 = entered ∧ state.2.history = t.history ++
        (.started server (boundary.parent request t).span? [] :: (rounds ++ [.finishing server true, .ended server])) := by
  intro server entered state rounds passes
  have admitted := boundary.enter_traced request t (by rw [fresh]; rfl) (by rw [fresh]; rfl) traced
  have reached : state = (entered, boundary.complete entered response
      (Operation.run stages (entered, (boundary.openSpan request t).2.2)).2) := by
    have split : state = (Operation.complete boundary response).apply (Operation.run stages (boundary.enter request t).2).1
        (Operation.run stages (boundary.enter request t).2).2 := by
      simp only [state, Operation.run, List.foldl_cons, List.foldl_append, List.foldl_nil]
      rfl
    rw [split, admitted, Operation.apply, passes.travels]
  have still := underway_later server entered _ (enter_under_way boundary request t fresh) _ _ passes.noted
  have closed : state.2.ledger =
      ((t.ledger.start server (boundary.parent request t).span? []).note rounds).close server := by
    rw [reached, complete_closes boundary response server entered _ still, passes.noted, boundary.open_span_ledger,
      Ledger.note_note, Ledger.note_note]
  refine ⟨by rw [reached], ?_⟩
  rw [Telemetry.history, closed]
  exact (bracket_rounds t.ledger server (boundary.parent request t).span? rounds (t.next_context_next _)).1

-- A chain of handlers that goes on asynchronously, from entering the request to
-- completing it. Completions come once for each handler. The rounds before the
-- handlers come once for the first and twice for every other one, so once for
-- all exactly if there is no other.
theorem async_chain_decorates_others_twice (boundary : ServerBoundary) (first : Stage) (others : List Stage)
    (response : Response) (request : Request) (t : Telemetry) (fresh : request.marks = .none)
    (traced : boundary.traces request = true) (distinct : ((first :: others).map Stage.handler).Nodup) :
    let server := boundary.serverSpan request t
    let entered := request.withServer server
    let state := Operation.run (.enter boundary :: (asyncChain boundary (first :: others) ++ [.complete boundary response]))
      (request, t)
    let rounds := boundary.decorators.milestones (.request entered) (some server) ++
      (asyncChainRounds server entered first others ++ boundary.decorators.milestones (.response entered response) (some server))
    state.1 = entered ∧
      state.2.history = t.history ++
        (.started server (boundary.parent request t).span? [] :: (rounds ++ [.finishing server true, .ended server])) ∧
      (∀ stage ∈ first :: others,
        (rounds.filterMap Milestone.preHandled?).count stage.handler = (if stage.handler = first.handler then 1 else 2) ∧
          (rounds.filterMap Milestone.completed?).count stage.handler = 1) ∧
      ((∀ stage ∈ first :: others, (rounds.filterMap Milestone.preHandled?).count stage.handler = 1) ↔ others = []) := by
  intro server entered state rounds
  have apart : ∀ handler, entered.marks.continuation? handler ≠ some server := by
    intro handler
    rw [Marks.continuation?, show entered.marks.continuations = [] from congrArg Marks.continuations fresh]
    simp
  have passes := passes_async_chain boundary server entered first others _ (enter_under_way boundary request t fresh) apart
  obtain ⟨travels, history⟩ := passes_bracketed boundary response request t _ _ fresh traced passes
  have silent : ∀ (handled? : Milestone → Option Handler) (hook : Hook), handled? (.round hook (some server)) = none →
      (∀ name, handled? (.called name hook (some server)) = none) →
      (boundary.decorators.milestones hook (some server)).filterMap handled? = [] := by
    intro handled? hook none_ calls
    rw [milestones_handled boundary.decorators hook _ handled? calls, none_]
    rfl
  have preHandled : rounds.filterMap Milestone.preHandled? =
      (first :: others).map Stage.handler ++ others.map Stage.handler := by
    rw [List.filterMap_append, List.filterMap_append, async_chain_pre_handled, silent _ _ rfl fun _ => rfl,
      silent _ _ rfl fun _ => rfl, List.nil_append, List.append_nil]
  have completed : rounds.filterMap Milestone.completed? = (first :: others).reverse.map Stage.handler := by
    rw [List.filterMap_append, List.filterMap_append, async_chain_completed, silent _ _ rfl fun _ => rfl,
      silent _ _ rfl fun _ => rfl, List.nil_append, List.append_nil]
  refine ⟨travels, history, ?_, ?_⟩
  · intro stage member
    rw [preHandled, completed]
    exact handled_counts first others distinct stage member
  · rw [preHandled]
    exact handled_once_iff first others distinct

def audit : Handler := ⟨"shop::Audit", none⟩

def ordersStage : Stage := ⟨plainCoordinator, orders, none, none⟩

def auditStage : Stage := ⟨plainCoordinator, audit, none, none⟩

theorem async_chain_decorates_others_twice_audit :
    let state := Operation.run
      (.enter plainBoundary :: (asyncChain plainBoundary [auditStage, ordersStage] ++ [.complete plainBoundary ⟨.ok, .empty, ""⟩]))
      (order, .start .silent false)
    state.2.history.filterMap Milestone.roundName? =
      ["on_request", "on_pre_handle", "on_pre_handle", "on_async_started", "on_async_started", "on_pre_handle",
        "on_after_completion", "on_after_completion", "on_response"] := by
  intro state
  obtain ⟨_, history, _⟩ := async_chain_decorates_others_twice plainBoundary auditStage [ordersStage] ⟨.ok, .empty, ""⟩ order
    (.start .silent false) rfl rfl (by decide)
  rw [history]
  rfl

theorem second_handler_decorated_twice :
    let state := Operation.run
      (.enter plainBoundary :: (asyncChain plainBoundary [auditStage, ordersStage] ++ [.complete plainBoundary ⟨.ok, .empty, ""⟩]))
      (order, .start .silent false)
    audit ≠ orders ∧ order.marks = .none ∧ plainBoundary.traces order = true ∧
      state.2.history.filterMap Milestone.preHandled? = [audit, orders, orders] := by
  exact ⟨by decide, rfl, rfl, rfl⟩

end RequestSpans
