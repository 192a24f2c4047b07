import RequestSpans.Proofs.Client.Call
import RequestSpans.Proofs.Server.Continuation

/-!
Panics while a request is handed on, before there is a task that could be polled or let go. A
blocking call has its guard by then and is cancelled as at any other time. The other entry points
just let go of what they hold: an outbound call finishes its span without a round, and the spans of
servers and handlers are never finished; they lapse as soon as nobody holds them.
-/
set_option autoImplicit false

namespace RequestSpans

namespace Ledger

-- The end of a span that nobody holds any more. Its wrapper has no part in it.
def lapse (l : Ledger) (span : SpanContext) : Ledger :=
  match l.standing? span with
  | none => l
  | some standing =>
      ⟨l.standings.set (span.span - 1) { standing with ended := true },
        l.history ++ if standing.ended then [] else [.ended standing.context]⟩

theorem lapse_standings (l : Ledger) (span : SpanContext) (standing : Standing) (known : l.standing? span = some standing) :
    l.lapse span = ⟨l.standings.set (span.span - 1) { standing with ended := true },
      l.history ++ if standing.ended then [] else [.ended standing.context]⟩ := by
  simp only [lapse, known]

theorem standing_lapse_self (l : Ledger) (span : SpanContext) (standing : Standing) (known : l.standing? span = some standing) :
    (l.lapse span).standing? span = some { standing with ended := true } := by
  obtain ⟨own, positive, present⟩ := standing_local l span standing known
  have bound := (List.getElem?_eq_some_iff.mp present).1
  rw [lapse_standings l span standing known, standing_of_local _ span own positive]
  simp [bound]

theorem lapse_lapse (l : Ledger) (span : SpanContext) : (l.lapse span).lapse span = l.lapse span := by
  cases known : l.standing? span with
  | none => simp only [lapse, known]
  | some standing =>
      rw [lapse_standings _ span _ (l.standing_lapse_self span standing known), lapse_standings l span standing known]
      simp

theorem wrapper_lapse (l : Ledger) (span other : SpanContext) : (l.lapse span).wrapper? other = l.wrapper? other := by
  cases known : l.standing? span with
  | none => simp only [lapse, known]
  | some standing =>
      obtain ⟨_, _, present⟩ := standing_local l span standing known
      obtain ⟨bound, seen⟩ := List.getElem?_eq_some_iff.mp
        (show (l.standings.map fun standing => (standing.context, standing.finished))[span.span - 1]? =
          some (standing.context, standing.finished) by rw [List.getElem?_map, present]; rfl)
      have same : (l.standings.set (span.span - 1) { standing with ended := true }).map
          (fun standing => (standing.context, standing.finished)) =
            l.standings.map fun standing => (standing.context, standing.finished) := by
        rw [List.map_set, ← seen, List.set_getElem_self bound]
      rw [lapse_standings l span standing known]
      unfold wrapper? standing?
      split
      · rfl
      · rw [← List.getElem?_map, ← List.getElem?_map, same]

end Ledger

namespace Telemetry

def lapsed (t : Telemetry) (span : SpanContext) : Ledger :=
  if t.held.contains span.span then t.ledger else t.ledger.lapse span

theorem end_span_lapses (t : Telemetry) (span : SpanContext) : (t.endSpan span).ledger = t.ledger.lapse span := by
  cases known : t.span? span with
  | none =>
      have unknown : t.ledger.standing? span = none := by rw [standing_span, known]; rfl
      simp only [endSpan, known, Ledger.lapse, unknown]
  | some found =>
      have stands : t.ledger.standing? span = some found.standing := by rw [standing_span, known]; rfl
      rw [ledger_end_span t span found known, Ledger.lapse_standings _ _ _ stands]
      rfl

theorem end_span_held (t : Telemetry) (span : SpanContext) : (t.endSpan span).held = t.held := by
  unfold endSpan
  split
  · rfl
  · split <;> rfl

theorem release_lapses (t : Telemetry) (span : SpanContext) :
    (t.release span).held = t.held ∧ (t.release span).ledger = t.lapsed span := by
  unfold release lapsed
  split
  · exact ⟨rfl, rfl⟩
  · exact ⟨t.end_span_held span, t.end_span_lapses span⟩

theorem lapsed_release (t : Telemetry) (span : SpanContext) : (t.release span).lapsed span = t.lapsed span := by
  obtain ⟨held, ledger⟩ := t.release_lapses span
  rw [lapsed, held, ledger]
  unfold lapsed
  split
  · rfl
  · exact t.ledger.lapse_lapse span

theorem release_copies (span : SpanContext) (copies : List SpanContext) (t : Telemetry)
    (same : ∀ copy ∈ copies, copy = span) (present : copies ≠ []) :
    (copies.foldl release t).ledger = t.lapsed span := by
  induction copies generalizing t with
  | nil => contradiction
  | cons first rest ih =>
      obtain rfl := same first List.mem_cons_self
      rw [List.foldl_cons]
      cases rest with
      | nil => exact (t.release_lapses first).2
      | cons second rest =>
          rw [ih _ (fun copy member => same copy (List.mem_cons_of_mem _ member)) (List.cons_ne_nil _ _), lapsed_release]

theorem wrapper_lapsed (t : Telemetry) (span other : SpanContext) :
    (t.lapsed span).wrapper? other = t.ledger.wrapper? other := by
  unfold lapsed
  split
  · rfl
  · exact Ledger.wrapper_lapse _ _ _

end Telemetry

namespace ClientInterceptor

theorem execute_panics (interceptor : ClientInterceptor) (request : Request) (t : Telemetry) (call : ActiveCall)
    (opened after : Telemetry) (send : Request → Telemetry → Option Outcome × Telemetry) (before : Nat)
    (starts : interceptor.Starts request t call opened)
    (sent : send call.request (opened.attach (.of call.span)) = (none, after))
    (unfinished : after.ledger.Open call.span before) :
    let run := interceptor.execute request send t
    run.1 = none ∧ call.EndsWith .cancelled after.ledger run.2.ledger (before + 1) := by
  simp only [execute, starts.started, Telemetry.within, ClientCall.context, sent]
  exact ⟨trivial, call.closing_ends .cancelled _ _ before unfinished (call.guard_concludes none after.detach before unfinished)⟩

theorem exchange_panics (interceptor : ClientInterceptor) (request : Request) (call : ActiveCall)
    (earlier opened after : Telemetry) (send : Request → Telemetry → Option Work × Telemetry)
    (meanwhile : Nat → Telemetry → Telemetry) (polls before : Nat)
    (starts : interceptor.Starts request (meanwhile (polls + 1) earlier) call opened)
    (sent : send call.request (opened.attach (.of call.span)) = (none, after))
    (unfinished : after.ledger.Open call.span before) :
    let run := (Task.lazyCall interceptor request send).drive meanwhile (polls + 1) earlier
    run.1 = none ∧ run.2.ledger = after.ledger.close call.span ∧ run.2.ledger.Closed call.span (before + 1) := by
  have polled : (Task.lazyCall interceptor request send).poll (meanwhile (polls + 1) earlier) =
      (.resolved none, (ClientCall.mk (some call)).drop after.detach) := by
    simp only [Task.poll, Task.pollCall, starts.started, Telemetry.within, ClientCall.context, sent]
    rfl
  rw [Task.drive_over meanwhile polls _ earlier _ none polled]
  exact ⟨rfl, call.dropped_ends before after.detach unfinished⟩

theorem service_panics (interceptor : ClientInterceptor) (request : Request) (t : Telemetry) (call : ActiveCall)
    (opened after : Telemetry) (below : Service) (before : Nat) (starts : interceptor.Starts request t call opened)
    (called : below.dispatch call.request (opened.attach (.of call.span)) = (none, after))
    (unfinished : after.ledger.Open call.span before) :
    let run := (Service.traceClient interceptor below).dispatch request t
    run.1 = none ∧ run.2.ledger = after.ledger.close call.span ∧ run.2.ledger.Closed call.span (before + 1) := by
  simp only [Service.dispatch, Service.callClient, starts.started, Telemetry.within, ClientCall.context, called]
  exact ⟨trivial, call.dropped_ends before after.detach unfinished⟩

-- The entry points of an outbound call that may panic before there is an answer
-- to wait for. A blocking call runs the round of its cancellation. The others
-- finish the span, and that is all they add.
structure Unwinds (interceptor : ClientInterceptor) (request : Request) (t : Telemetry) (call : ActiveCall)
    (opened : Telemetry) (before : Nat) : Prop where
  execute : ∀ (send : Request → Telemetry → Option Outcome × Telemetry) (after : Telemetry),
    send call.request (opened.attach (.of call.span)) = (none, after) → after.ledger.Open call.span before →
      let run := interceptor.execute request send t
      run.1 = none ∧ call.EndsWith .cancelled after.ledger run.2.ledger (before + 1)
  exchange : ∀ (send : Request → Telemetry → Option Work × Telemetry) (earlier after : Telemetry)
    (meanwhile : Nat → Telemetry → Telemetry) (polls : Nat), meanwhile (polls + 1) earlier = t →
      send call.request (opened.attach (.of call.span)) = (none, after) → after.ledger.Open call.span before →
        let run := (Task.lazyCall interceptor request send).drive meanwhile (polls + 1) earlier
        run.1 = none ∧ run.2.ledger = after.ledger.close call.span ∧ run.2.ledger.Closed call.span (before + 1)
  service : ∀ (below : Service) (after : Telemetry),
    below.dispatch call.request (opened.attach (.of call.span)) = (none, after) → after.ledger.Open call.span before →
      let run := (Service.traceClient interceptor below).dispatch request t
      run.1 = none ∧ run.2.ledger = after.ledger.close call.span ∧ run.2.ledger.Closed call.span (before + 1)

theorem starts_unwinds (interceptor : ClientInterceptor) (request : Request) (t : Telemetry) (call : ActiveCall)
    (opened : Telemetry) (before : Nat) (starts : interceptor.Starts request t call opened) :
    interceptor.Unwinds request t call opened before := by
  constructor
  case execute =>
    intro send after sent unfinished
    exact interceptor.execute_panics request t call opened after send before starts sent unfinished
  case exchange =>
    intro send earlier after meanwhile polls now sent unfinished
    subst now
    exact interceptor.exchange_panics request call earlier opened after send meanwhile polls before starts sent unfinished
  case service =>
    intro below after called unfinished
    exact interceptor.service_panics request t call opened after below before starts called unfinished

end ClientInterceptor

structure Abandons (span : SpanContext) (kept : Bool) (after : Telemetry) (run : Option Task × Telemetry) : Prop where
  result : run.1.isNone
  ledger : run.2.ledger = if kept then after.ledger else after.lapsed span
  wrappers : ∀ other, run.2.ledger.wrapper? other = after.ledger.wrapper? other

theorem abandons_of (span : SpanContext) (kept : Bool) (after : Telemetry) (run : Option Task × Telemetry)
    (result : run.1.isNone) (ledger : run.2.ledger = if kept then after.ledger else after.lapsed span) :
    Abandons span kept after run := by
  refine ⟨result, ledger, fun other => ?_⟩
  rw [ledger]
  split
  · rfl
  · exact after.wrapper_lapsed span other

inductive Ground (l : Ledger) (server : SpanContext) (handler : Handler) (marks : Marks) : SpanContext → Ledger → Prop
  | server (running : l.finished server = false) : Ground l server handler marks server l
  | continuation (span : SpanContext) (reached : Ledger) (stopped : l.finished server = true)
      (resumption : Resumption l server handler marks span reached) : Ground l server handler marks span reached

theorem continued_spans (request : Request) (handler : Handler) (span : SpanContext) :
    span ∈ (request.continueOn handler span).marks.spans ∧
      ∀ other ∈ (request.continueOn handler span).marks.spans, other ∈ request.marks.spans ∨ other = span := by
  have tabled : ∀ other ∈ (Marks.putContinuation request.marks.continuations handler span).map (·.2),
      other ∈ request.marks.continuations.map (·.2) ∨ other = span := by
    intro other member
    obtain ⟨entry, present, rfl⟩ := List.mem_map.mp member
    rcases put_continuation_member _ handler span entry present with rfl | old
    · exact .inr rfl
    · exact .inl (List.mem_map_of_mem old)
  have spans : (request.continueOn handler span).marks.spans =
      request.marks.wrapper?.toList ++ [span] ++ (Marks.putContinuation request.marks.continuations handler span).map (·.2) := by
    rfl
  rw [spans]
  refine ⟨by simp, fun other member => ?_⟩
  simp only [List.mem_append, List.mem_singleton] at member
  rcases member with (own | fresh) | listed
  · exact .inl (by simp only [Marks.spans, List.mem_append]; exact .inl (.inl own))
  · exact .inr fresh
  · exact (tabled other listed).imp (fun old => by simp only [Marks.spans, List.mem_append]; exact .inr old) id

namespace HandlerCoordinator

structure Prepares (coordinator : HandlerCoordinator) (request : Request) (handler : Handler) (t : Telemetry)
    (server span : SpanContext) (reached : Ledger) : Prop where
  ground : Ground t.ledger server handler request.marks span reached
  round : (coordinator.preHandle request handler t).2.ledger = reached.note
    (coordinator.decorators.milestones (.preHandle (coordinator.preHandle request handler t).1 handler) (some span))
  held : span ∈ (coordinator.preHandle request handler t).1.marks.spans
  only : ∀ other ∈ (coordinator.preHandle request handler t).1.marks.spans, other ∈ request.marks.spans ∨ other = span

theorem pre_handle_prepares (coordinator : HandlerCoordinator) (request : Request) (handler : Handler) (t : Telemetry)
    (server : SpanContext) (undecided : request.marks.untraced = false) (resumed : request.marks.asyncPending = false)
    (marked : request.marks.wrapper? = some server) : ∃ span reached, coordinator.Prepares request handler t server span reached := by
  cases stopped : t.isFinished server with
  | false =>
      have prepared := coordinator.pre_handle_running request handler t server undecided resumed marked stopped
      refine ⟨server, t.ledger, .server (t.is_finished_ledger server ▸ stopped), ?_, ?_, ?_⟩ <;> rw [prepared]
      · exact coordinator.invoke_ledger _ server t
      · simp [Marks.spans, marked]
      · exact fun other member => .inl member
  | true =>
      obtain ⟨span, later, resumes, _, moved, ledger⟩ :=
        coordinator.pre_handle_resumes request handler t server undecided resumed marked stopped
      obtain ⟨held, only⟩ := continued_spans request handler span
      refine ⟨span, later.ledger, .continuation span _ (t.is_finished_ledger server ▸ stopped) resumes.resumption, ?_, ?_, ?_⟩ <;>
        rw [moved]
      · exact ledger
      · exact held
      · exact only

theorem service_panics (coordinator : HandlerCoordinator) (request : Request) (handler : Handler) (t after : Telemetry)
    (server span : SpanContext) (reached : Ledger) (below : Service)
    (prepares : coordinator.Prepares request handler t server span reached)
    (called : let prepared := coordinator.preHandle request handler t
      below.dispatch prepared.1 (prepared.2.attach (prepared.1.marks.active?.getD prepared.2.current)) = (none, after)) :
    Abandons span (request.marks.spans.contains span) after
      ((Service.traceHandler coordinator handler below).dispatch request t) := by
  simp only [Service.dispatch, Service.callHandler, Telemetry.within, called, Service.guardTask]
  refine abandons_of _ _ _ _ rfl ?_
  dsimp only
  generalize opened : (coordinator.preHandle request handler t).1.marks.spans.filter
    (fun other => !request.marks.spans.contains other) = fresh
  have copies : ∀ copy ∈ fresh, copy = span := by
    intro copy member
    subst opened
    obtain ⟨present, absent⟩ := List.mem_filter.mp member
    exact (prepares.only copy present).resolve_left fun old => by simp [old] at absent
  cases kept : request.marks.spans.contains span with
  | true =>
      have none_ : fresh = [] := by
        refine List.eq_nil_iff_forall_not_mem.mpr fun copy member => ?_
        obtain rfl := copies copy member
        subst opened
        have absent := (List.mem_filter.mp member).2
        rw [kept] at absent
        contradiction
      rw [none_]
      rfl
  | false =>
      have present : span ∈ fresh := by
        subst opened
        exact List.mem_filter.mpr ⟨prepares.held, by rw [kept]; rfl⟩
      exact Telemetry.release_copies span fresh after.detach copies (List.ne_nil_of_mem present)

end HandlerCoordinator

theorem ServerBoundary.service_panics (boundary : ServerBoundary) (request : Request) (t after : Telemetry) (below : Service)
    (unmarked : request.marks.wrapper? = none) (undecided : request.marks.untraced = false)
    (traced : boundary.traces request = true)
    (called : below.dispatch (request.withServer (boundary.serverSpan request t))
      ((boundary.openSpan request t).2.2.attach (.of (boundary.serverSpan request t))) = (none, after)) :
    Abandons (boundary.serverSpan request t) false after ((Service.traceServer boundary below).dispatch request t) := by
  simp only [Service.dispatch, Service.callServer, boundary.enter_traced request t unmarked undecided traced,
    Telemetry.within, called, Service.guardTask]
  exact abandons_of _ _ _ _ rfl (after.detach.release_lapses _).2

-- `below` and `send` may do whatever they like before they panic. The client's
-- wrapper alone has to be out of their reach, as it is in every call.
theorem dispatch_panics (request : Request) (t : Telemetry) :
    (∀ interceptor : ClientInterceptor, interceptor.enabled = true →
      ∃ call opened, interceptor.Starts request t call opened ∧
        opened.ledger.Open call.span (t.history.count (.ended call.span)) ∧
        interceptor.Unwinds request t call opened (t.history.count (.ended call.span))) ∧
    (∀ (boundary : ServerBoundary) (after : Telemetry) (below : Service),
      request.marks.wrapper? = none → request.marks.untraced = false → boundary.traces request = true →
        let span := boundary.serverSpan request t
        let opened := (boundary.openSpan request t).2.2
        below.dispatch (request.withServer span) (opened.attach (.of span)) = (none, after) →
          Abandons span false after ((Service.traceServer boundary below).dispatch request t)) ∧
    (∀ (coordinator : HandlerCoordinator) (handler : Handler) (after : Telemetry) (server : SpanContext) (below : Service),
      request.marks.wrapper? = some server → request.marks.untraced = false → request.marks.asyncPending = false →
        let prepared := coordinator.preHandle request handler t
        below.dispatch prepared.1 (prepared.2.attach (prepared.1.marks.active?.getD prepared.2.current)) = (none, after) →
          ∃ span reached, coordinator.Prepares request handler t server span reached ∧
            Abandons span (request.marks.spans.contains span) after
              ((Service.traceHandler coordinator handler below).dispatch request t)) := by
  refine ⟨?_, ?_, ?_⟩
  · intro interceptor enabled
    obtain ⟨call, opened, starts⟩ := interceptor.start_starts request t enabled
    exact ⟨call, opened, starts, interceptor.starts_open request t call opened starts,
      interceptor.starts_unwinds request t call opened _ starts⟩
  · intro boundary after below unmarked undecided traced span opened called
    exact boundary.service_panics request t after below unmarked undecided traced called
  · intro coordinator handler after server below marked undecided resumed prepared called
    obtain ⟨span, reached, prepares⟩ := coordinator.pre_handle_prepares request handler t server undecided resumed marked
    exact ⟨span, reached, prepares, coordinator.service_panics request handler t after server span reached below prepares called⟩

def outage : Service := .innermost true fun _ _ t => (none, t)

theorem dispatch_panics_outage :
    let server := plainBoundary.serverSpan order (.start .silent false)
    let entered := (plainBoundary.openSpan order (.start .silent false)).2.2
    let failed := plainBoundary.fail (order.withServer server) ⟨"out of stock", []⟩ entered
    let prepared := (plainCoordinator.preHandle (order.withServer server) orders failed).2
    (∃ call opened, (ClientInterceptor.standard ⟨some .silent⟩).Starts ClientInterceptor.reservation (.start .silent false) call
        opened ∧
      let run := (Service.traceClient (.standard ⟨some .silent⟩) outage).dispatch ClientInterceptor.reservation
        (.start .silent false)
      run.1 = none ∧ run.2.ledger = opened.ledger.close call.span ∧ run.2.ledger.Closed call.span 1) ∧
    Abandons server false (entered.attach (.of server))
      ((Service.traceServer plainBoundary outage).dispatch order (.start .silent false)) ∧
    ∃ span reached, plainCoordinator.Prepares (order.withServer server) orders failed server span reached ∧
      Abandons span ((order.withServer server).marks.spans.contains span) (prepared.attach (.of (failed.nextContext (.of server))))
        ((Service.traceHandler plainCoordinator orders outage).dispatch (order.withServer server) failed) := by
  intro server entered failed prepared
  refine ⟨?_, ?_, ?_⟩
  · obtain ⟨call, opened, starts, unfinished, unwinds⟩ :=
      (dispatch_panics ClientInterceptor.reservation (.start .silent false)).1 (.standard ⟨some .silent⟩) rfl
    exact ⟨call, opened, starts, unwinds.service outage (opened.attach (.of call.span)) rfl unfinished⟩
  · exact (dispatch_panics order (.start .silent false)).2.1 plainBoundary _ outage rfl rfl rfl rfl
  · exact (dispatch_panics (order.withServer server) failed).2.2 plainCoordinator orders _ server outage rfl rfl rfl rfl

def roundNames (history : List Milestone) : List String :=
  history.filterMap fun milestone => match milestone with
    | .round hook _ => some hook.name
    | _ => none

-- A panic for each of them, and what it leaves out: a client that has decorated
-- the request does not hear of the cancellation, a handler that has prepared does
-- not complete, and the server span ends with its wrapper unfinished.
theorem outage_leaves_hooks_out :
    let sent := (Service.traceClient (.standard ⟨some .silent⟩) outage).dispatch ClientInterceptor.reservation
      (.start .silent false)
    let served := (Service.traceServer plainBoundary (.traceHandler plainCoordinator orders outage)).dispatch order
      (.start .silent false)
    let exchanged := (Task.lazyCall (.standard ⟨some .silent⟩) ClientInterceptor.reservation fun _ t => (none, t)).drive
      (fun _ t => t) 1 (.start .silent false)
    let server := plainBoundary.serverSpan order (.start .silent false)
    sent.1.isNone ∧ roundNames sent.2.history = ["on_request"] ∧
      exchanged.1.isNone ∧ roundNames exchanged.2.history = ["on_request"] ∧
      served.1.isNone ∧ roundNames served.2.history = ["on_request", "on_pre_handle"] ∧
        served.2.ledger.standing? server = some ⟨server, false, true⟩ := by
  decide

end RequestSpans
