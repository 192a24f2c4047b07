import RequestSpans.Proofs.Growth
import RequestSpans.Server.Boundary

set_option autoImplicit false

namespace RequestSpans

def Request.withServer (request : Request) (span : SpanContext) : Request :=
  { request with marks := { request.marks with wrapper? := some span, active? := some (.of span) } }

namespace ServerBoundary

def traces (boundary : ServerBoundary) (request : Request) : Bool :=
  boundary.enabled && boundary.scope.covers request.uri.path && !boundary.skip.skips request.uri.path

def parent (boundary : ServerBoundary) (request : Request) (t : Telemetry) : Context :=
  boundary.instrumentation.extract request.headers t

def serverSpan (boundary : ServerBoundary) (request : Request) (t : Telemetry) : SpanContext :=
  t.nextContext (boundary.parent request t)

theorem is_traced_traces (boundary : ServerBoundary) (request : Request) (t : Telemetry)
    (traced : boundary.traces request = true) : boundary.isTraced request t = (true, t) := by
  simp only [traces, Bool.and_eq_true, Bool.not_eq_true'] at traced
  obtain ⟨⟨enabled, covered⟩, kept⟩ := traced
  simp [isTraced, enabled, covered, kept]

theorem is_traced_refuses (boundary : ServerBoundary) (request : Request) (t : Telemetry)
    (refused : boundary.traces request = false) :
    (boundary.isTraced request t).1 = false ∧ (boundary.isTraced request t).2.ledger = t.ledger := by
  unfold isTraced
  dsimp only
  split
  · exact ⟨rfl, rfl⟩
  · split
    · exact ⟨rfl, by simp⟩
    · split
      · exact ⟨rfl, by simp⟩
      · rename_i enabled covered kept
        simp only [Bool.not_eq_true', Bool.not_eq_false, Bool.not_eq_true] at enabled covered kept
        simp [traces, enabled, covered, kept] at refused

theorem open_span_ledger (boundary : ServerBoundary) (request : Request) (t : Telemetry) :
    (boundary.openSpan request t).2.2.ledger =
      (t.ledger.start (boundary.serverSpan request t) (boundary.parent request t).span? []).note
        (boundary.decorators.milestones (.request (request.withServer (boundary.serverSpan request t)))
          (some (boundary.serverSpan request t))) := by
  have started : (boundary.instrumentation.startSpan request.method .server (boundary.parent request t) [] t).2.ledger =
      t.ledger.start (boundary.serverSpan request t) (boundary.parent request t).span? [] := by
    simp [Instrumentation.startSpan, serverSpan]
  rw [← started]
  exact DecoratorChain.ledger_invoke _ _ _ _

theorem enter_traced (boundary : ServerBoundary) (request : Request) (t : Telemetry)
    (unmarked : request.marks.wrapper? = none) (undecided : request.marks.untraced = false)
    (traced : boundary.traces request = true) :
    boundary.enter request t = (.started (boundary.serverSpan request t),
      request.withServer (boundary.serverSpan request t), (boundary.openSpan request t).2.2) := by
  simp only [enter, unmarked, undecided, is_traced_traces boundary request t traced, Bool.false_eq_true, if_false,
    if_true]
  rfl

theorem enter_refused (boundary : ServerBoundary) (request : Request) (t : Telemetry)
    (unmarked : request.marks.wrapper? = none)
    (refused : request.marks.untraced = true ∨ boundary.traces request = false) :
    (boundary.enter request t).2.1 = { request with marks := { request.marks with untraced := true } } ∧
      (boundary.enter request t).2.2.ledger = t.ledger := by
  cases decided : request.marks.untraced with
  | true => simp [enter, unmarked, decided]
  | false =>
      have outside : boundary.traces request = false := by simpa [decided] using refused
      obtain ⟨answer, same⟩ := is_traced_refuses boundary request t outside
      simp [enter, unmarked, decided, answer, same]

theorem enter_again (boundary : ServerBoundary) (request : Request) (t : Telemetry) (server : SpanContext)
    (marked : request.marks.wrapper? = some server) : boundary.enter request t = (.redispatch server, request, t) := by
  simp only [enter, marked]

theorem unfinished_running (request : Request) (t : Telemetry) (server : SpanContext)
    (marked : request.marks.wrapper? = some server) (running : t.isFinished server = false) :
    unfinished request t = (some server, t) := by
  simp [unfinished, marked, running]

theorem unfinished_over (request : Request) (t : Telemetry)
    (stopped : ∀ server, request.marks.wrapper? = some server → t.isFinished server = true) :
    (unfinished request t).1 = none ∧ (unfinished request t).2.ledger = t.ledger := by
  unfold unfinished
  cases marked : request.marks.wrapper? with
  | none => exact ⟨rfl, rfl⟩
  | some server => simp [stopped server marked]

theorem close_running (boundary : ServerBoundary) (request : Request) (hook : Hook) (actions : List SpanAction)
    (t : Telemetry) (server : SpanContext) (marked : request.marks.wrapper? = some server)
    (running : t.isFinished server = false) :
    (boundary.close request hook actions t).ledger =
      (t.ledger.note (boundary.decorators.milestones hook (some server))).close server := by
  have decorated : (((boundary.decorators.invoke hook (some server) (t.attach (.of server))).act server actions)).ledger =
      t.ledger.note (boundary.decorators.milestones hook (some server)) := by simp
  have still : ((boundary.decorators.invoke hook (some server) (t.attach (.of server))).act server actions).isFinished
      server = false := by
    rw [Telemetry.is_finished_ledger, decorated, Ledger.finished_note, ← Telemetry.is_finished_ledger, running]
  simp only [close, unfinished_running request t server marked running, Telemetry.ledger_within]
  rw [(Telemetry.finish_running _ server still).2, decorated]

theorem close_over (boundary : ServerBoundary) (request : Request) (hook : Hook) (actions : List SpanAction)
    (t : Telemetry) (stopped : ∀ server, request.marks.wrapper? = some server → t.isFinished server = true) :
    (boundary.close request hook actions t).ledger = t.ledger := by
  obtain ⟨none_, same⟩ := unfinished_over request t stopped
  unfold close
  split
  · rename_i rest found
    rw [← same, found]
  · rename_i server rest found
    simp [found] at none_

theorem cancel_running (boundary : ServerBoundary) (request : Request) (t : Telemetry) (server : SpanContext)
    (marked : request.marks.wrapper? = some server) (running : t.isFinished server = false) :
    (boundary.cancel request t).ledger = t.ledger.close server := by
  have still : (t.log .debug "request cancelled" [("span_id", server.spanHex)]).isFinished server = false := by
    rw [Telemetry.is_finished_ledger, Telemetry.ledger_log, ← Telemetry.is_finished_ledger, running]
  simp only [cancel, unfinished_running request t server marked running]
  rw [(Telemetry.finish_running _ server still).2, Telemetry.ledger_log]

theorem cancel_over (boundary : ServerBoundary) (request : Request) (t : Telemetry)
    (stopped : ∀ server, request.marks.wrapper? = some server → t.isFinished server = true) :
    (boundary.cancel request t).ledger = t.ledger := by
  obtain ⟨none_, same⟩ := unfinished_over request t stopped
  unfold cancel
  split
  · rename_i rest found
    rw [← same, found]
  · rename_i server rest found
    simp [found] at none_

theorem grows_is_traced (boundary : ServerBoundary) (request : Request) (t : Telemetry) :
    t.Grows (boundary.isTraced request t).2 := by
  unfold isTraced
  dsimp only
  split
  · exact t.grows_self
  · split
    · exact t.grows_log _ _ _
    · split
      · exact t.grows_log _ _ _
      · exact t.grows_self

theorem grows_open_span (boundary : ServerBoundary) (request : Request) (t : Telemetry) :
    t.Grows (boundary.openSpan request t).2.2 :=
  Telemetry.grows_trans (t.grows_start _ _ _ _ _) (boundary.decorators.grows_round _ _ _)

theorem grows_enter (boundary : ServerBoundary) (request : Request) (t : Telemetry) :
    t.Grows (boundary.enter request t).2.2 := by
  cases marked : request.marks.wrapper? with
  | some server =>
      rw [boundary.enter_again request t server marked]
      exact t.grows_self
  | none =>
      cases decided : request.marks.untraced with
      | true =>
          simp only [enter, marked, decided, if_true, Bool.false_eq_true, if_false]
          exact t.grows_self
      | false =>
          simp only [enter, marked, decided, Bool.false_eq_true, if_false]
          split
          · exact Telemetry.grows_trans (boundary.grows_is_traced request t) (boundary.grows_open_span request _)
          · exact boundary.grows_is_traced request t

theorem grows_unfinished (request : Request) (t : Telemetry) : t.Grows (unfinished request t).2 := by
  unfold unfinished
  split
  · exact t.grows_self
  · split
    · exact t.grows_log _ _ _
    · exact t.grows_self

theorem grows_close (boundary : ServerBoundary) (request : Request) (hook : Hook) (actions : List SpanAction)
    (t : Telemetry) : t.Grows (boundary.close request hook actions t) := by
  have looked := grows_unfinished request t
  unfold close
  split
  · rename_i rest found
    simpa only [found] using looked
  · rename_i server rest found
    rw [found] at looked
    refine Telemetry.grows_trans looked (Telemetry.grows_within _ _ _ fun before => ?_)
    exact Telemetry.grows_trans (boundary.decorators.grows_invoke _ _ before)
      (Telemetry.grows_trans (Telemetry.grows_act _ _ _) (Telemetry.grows_finish _ _))

theorem grows_complete (boundary : ServerBoundary) (request : Request) (response : Response) (t : Telemetry) :
    t.Grows (boundary.complete request response t) := by
  unfold complete
  split
  · exact t.grows_log _ _ _
  · exact boundary.grows_close request _ _ t

theorem grows_cancel (boundary : ServerBoundary) (request : Request) (t : Telemetry) :
    t.Grows (boundary.cancel request t) := by
  have looked := grows_unfinished request t
  unfold cancel
  split
  · rename_i rest found
    simpa only [found] using looked
  · rename_i server rest found
    rw [found] at looked
    exact Telemetry.grows_trans looked (Telemetry.grows_trans (Telemetry.grows_log _ _ _ _) (Telemetry.grows_finish _ _))

end ServerBoundary

def plainBoundary : ServerBoundary := ⟨⟨some .silent⟩, .empty, ⟨none⟩, .everything, true⟩

def order : Request := ⟨"GET", ⟨none, none, "/orders"⟩, .http11, ⟨[]⟩, "", .none⟩

end RequestSpans
