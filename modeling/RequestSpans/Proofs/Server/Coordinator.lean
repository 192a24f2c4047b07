import RequestSpans.Proofs.Growth
import RequestSpans.Server.Coordinator

set_option autoImplicit false

namespace RequestSpans

theorem put_continuation_same (table : List (Handler × SpanContext)) (handler : Handler) (span : SpanContext)
    (held : (table.find? fun entry => entry.1 = handler).map (·.2) = some span) :
    Marks.putContinuation table handler span = table := by
  induction table with
  | nil => simp at held
  | cons entry rest ih =>
      obtain ⟨owner, kept⟩ := entry
      by_cases same : owner = handler
      · have value : kept = span := by simpa [same] using held
        simp [Marks.putContinuation, same, value]
      · simp only [Marks.putContinuation, if_neg same]
        rw [ih (by simpa [same] using held)]

theorem put_continuation_self (table : List (Handler × SpanContext)) (handler : Handler) (span : SpanContext) :
    ((Marks.putContinuation table handler span).find? fun entry => entry.1 = handler).map (·.2) = some span := by
  induction table with
  | nil => simp [Marks.putContinuation]
  | cons entry rest ih =>
      obtain ⟨owner, kept⟩ := entry
      by_cases same : owner = handler
      · simp [Marks.putContinuation, same]
      · simp only [Marks.putContinuation, if_neg same]
        rw [List.find?_cons_of_neg (by simpa using same), ih]

theorem put_continuation_other (table : List (Handler × SpanContext)) (handler other : Handler) (span : SpanContext)
    (different : other ≠ handler) :
    (Marks.putContinuation table handler span).find? (fun entry => entry.1 = other) =
      table.find? fun entry => entry.1 = other := by
  induction table with
  | nil => simp [Marks.putContinuation, Ne.symm different]
  | cons entry rest ih =>
      obtain ⟨owner, kept⟩ := entry
      by_cases same : owner = handler
      · simp [Marks.putContinuation, same, Ne.symm different]
      · simp only [Marks.putContinuation, if_neg same, List.find?_cons, ih]

theorem put_continuation_member (table : List (Handler × SpanContext)) (handler : Handler) (span : SpanContext)
    (entry : Handler × SpanContext) (member : entry ∈ Marks.putContinuation table handler span) :
    entry = (handler, span) ∨ entry ∈ table := by
  induction table with
  | nil => exact .inl (List.mem_singleton.mp member)
  | cons head rest ih =>
      obtain ⟨owner, kept⟩ := head
      simp only [Marks.putContinuation] at member
      split at member
      · rename_i same
        rcases List.mem_cons.mp member with first | old
        · exact .inl (by rw [first, same])
        · exact .inr (List.mem_cons_of_mem _ old)
      · rcases List.mem_cons.mp member with rfl | later
        · exact .inr List.mem_cons_self
        · exact (ih later).imp id (List.mem_cons_of_mem _)

theorem put_continuation_keys (table : List (Handler × SpanContext)) (handler : Handler) (span : SpanContext)
    (distinct : (table.map (·.1)).Nodup) : ((Marks.putContinuation table handler span).map (·.1)).Nodup := by
  induction table with
  | nil => simp [Marks.putContinuation]
  | cons head rest ih =>
      obtain ⟨owner, kept⟩ := head
      obtain ⟨absent, tail⟩ := List.nodup_cons.mp distinct
      simp only [Marks.putContinuation]
      split
      · exact distinct
      · rename_i different
        refine List.nodup_cons.mpr ⟨?_, ih tail⟩
        intro present
        obtain ⟨entry, member, same⟩ := List.mem_map.mp present
        rcases put_continuation_member rest handler span entry member with rfl | old
        · exact different same.symm
        · exact absent (List.mem_map.mpr ⟨entry, old, same⟩)

def Request.continueOn (request : Request) (handler : Handler) (span : SpanContext) : Request :=
  { request with
    marks := { request.marks with
      continuations := Marks.putContinuation request.marks.continuations handler span, active? := some (.of span) } }

theorem Request.continue_on_own (request : Request) (handler : Handler) (span : SpanContext)
    (held : request.marks.continuation? handler = some span) (active : request.marks.active? = some (.of span)) :
    request.continueOn handler span = request := by
  rw [Request.continueOn, put_continuation_same _ handler span held, ← active]

inductive Resumption (l : Ledger) (server : SpanContext) (handler : Handler) (marks : Marks) (span : SpanContext) :
    Ledger → Prop
  | reused (held : marks.continuation? handler = some span) (running : l.finished span = false) :
      Resumption l server handler marks span l
  | opened (stopped : ∀ kept, marks.continuation? handler = some kept → l.finished kept = true) (next : l.Next span)
      (trace : span.trace = server.trace) : Resumption l server handler marks span (l.start span (some server) [server])

theorem resumption_running (l after : Ledger) (server span : SpanContext) (handler : Handler) (marks : Marks)
    (resumption : Resumption l server handler marks span after) : after.finished span = false := by
  cases resumption with
  | reused held running => exact running
  | opened stopped next trace =>
      rw [Ledger.finished, Ledger.standing_start_new l span (some server) [server] next]
      rfl

-- A continuation span names its handler, as far as it records anything: a span
-- that is not sampled does not.
def Labelled (t : Telemetry) (server span : SpanContext) (handler : Handler) : Prop :=
  ∃ record, t.span? span = some record ∧ record.parent? = some server ∧ record.links = [server] ∧
    (span.sampled = true → ("handler", .text handler.display) ∈ record.attributes)

theorem labelled_grows (before after : Telemetry) (server span : SpanContext) (handler : Handler)
    (labelled : Labelled before server span handler) (grows : before.Grows after) : Labelled after server span handler := by
  obtain ⟨record, known, parent, links, named⟩ := labelled
  obtain ⟨later, found, extend⟩ := grows span record known
  exact ⟨later, found, extend.parent.trans parent, extend.links.trans links, fun sampled =>
    extend.attributes.subset (named sampled)⟩

structure Resumes (t : Telemetry) (server : SpanContext) (handler : Handler) (marks : Marks) (span : SpanContext)
    (later : Telemetry) : Prop where
  resumption : Resumption t.ledger server handler marks span later.ledger
  labelled : later = t ∨ Labelled later server span handler

namespace HandlerCoordinator

@[simp] theorem invoke_ledger (coordinator : HandlerCoordinator) (hook : Hook) (span : SpanContext) (t : Telemetry) :
    (coordinator.invoke hook span t).ledger = t.ledger.note (coordinator.decorators.milestones hook (some span)) := by
  simp [invoke]

theorem report_missing_ledger (coordinator : HandlerCoordinator) (handler : Handler) (t : Telemetry) :
    (coordinator.reportMissing handler t).ledger = t.ledger := by
  unfold reportMissing
  split
  · rfl
  · rw [Telemetry.ledger_log]
    rfl

theorem continue_span_ledger (coordinator : HandlerCoordinator) (server : SpanContext) (handler : Handler) (t : Telemetry) :
    (coordinator.continueSpan server handler t).2.ledger = t.ledger.start (t.nextContext (.of server)) (some server) [server] := by
  unfold continueSpan
  dsimp only
  rw [Telemetry.ledger_log, Telemetry.ledger_update _ _ _ (fun found => standing_add_attribute found _)]
  exact Telemetry.ledger_start_span t _ _ (.of server) _ [server]

theorem grows_continue_span (coordinator : HandlerCoordinator) (server : SpanContext) (handler : Handler) (t : Telemetry) :
    t.Grows (coordinator.continueSpan server handler t).2 :=
  Telemetry.grows_trans (t.grows_start _ _ _ _ _)
    (Telemetry.grows_trans (Telemetry.grows_update _ _ _ fun record => record.extends_attribute _) (Telemetry.grows_log _ _ _ _))

theorem continue_span_labelled (coordinator : HandlerCoordinator) (server : SpanContext) (handler : Handler)
    (t : Telemetry) :
    Labelled (coordinator.continueSpan server handler t).2 server (t.nextContext (.of server)) handler := by
  have started : (t.startSpan handler.operationName .server (.of server)
      [("span.kind", .text SpanKind.server.tag)] [server]).2.span? (t.nextContext (.of server)) =
        some ⟨handler.operationName, .server, t.nextContext (.of server), some server,
          [("span.kind", .text SpanKind.server.tag)], 0, [], 0, [server], .unset, false, false⟩ := t.span_start _ _ _ _ _
  have tagged := Telemetry.span_alter_self _ _ _
    (fun span => if span.isRecording then span.addAttribute ("handler", .text handler.display) else span) started
  refine labelled_grows _ _ server _ handler ⟨_, tagged, ?_⟩ (Telemetry.grows_log _ _ _ _)
  cases sampled : (t.nextContext (.of server)).sampled <;> simp [Span.isRecording, Span.addAttribute, Span.limit, sampled]

theorem resume_open (coordinator : HandlerCoordinator) (server : SpanContext) (request : Request) (handler : Handler)
    (t : Telemetry) (span : SpanContext) (held : request.marks.continuation? handler = some span)
    (running : t.isFinished span = false) :
    coordinator.resume server request handler t = (span, request.continueOn handler span, t) := by
  have kept : (request.marks.continuation? handler).filter (fun span => !t.isFinished span) = some span := by
    rw [held, Option.filter_some, running]
    rfl
  simp only [resume, kept, Request.continueOn, put_continuation_same _ handler span held]

theorem resume_fresh (coordinator : HandlerCoordinator) (server : SpanContext) (request : Request) (handler : Handler)
    (t : Telemetry) (none_ : ∀ span, request.marks.continuation? handler = some span → t.isFinished span = true) :
    coordinator.resume server request handler t = (t.nextContext (.of server),
      request.continueOn handler (t.nextContext (.of server)), (coordinator.continueSpan server handler t).2) := by
  have absent : (request.marks.continuation? handler).filter (fun span => !t.isFinished span) = none := by
    simpa [Option.filter_eq_none_iff] using none_
  simp only [resume, absent]
  rfl

theorem activate_untraced (coordinator : HandlerCoordinator) (request : Request) (handler : Handler) (t : Telemetry)
    (untraced : request.marks.untraced = true) : coordinator.activate request handler t = (none, request, t) := by
  simp only [activate, untraced, if_true]

theorem activate_missing (coordinator : HandlerCoordinator) (request : Request) (handler : Handler) (t : Telemetry)
    (undecided : request.marks.untraced = false) (unmarked : request.marks.wrapper? = none) :
    coordinator.activate request handler t = (none, request, coordinator.reportMissing handler t) := by
  simp only [activate, undecided, unmarked, Bool.false_eq_true, if_false]

theorem activate_running (coordinator : HandlerCoordinator) (request : Request) (handler : Handler) (t : Telemetry)
    (server : SpanContext) (undecided : request.marks.untraced = false)
    (marked : request.marks.wrapper? = some server) (running : t.isFinished server = false) :
    coordinator.activate request handler t = (some server, request, t) := by
  simp [activate, undecided, marked, running]

theorem activate_over (coordinator : HandlerCoordinator) (request : Request) (handler : Handler) (t : Telemetry)
    (server : SpanContext) (undecided : request.marks.untraced = false)
    (marked : request.marks.wrapper? = some server) (stopped : t.isFinished server = true) :
    coordinator.activate request handler t =
      (some (coordinator.resume server request handler t).1, (coordinator.resume server request handler t).2) := by
  simp [activate, undecided, marked, stopped]

theorem activate_resumes (coordinator : HandlerCoordinator) (request : Request) (handler : Handler) (t : Telemetry)
    (server : SpanContext) (undecided : request.marks.untraced = false)
    (marked : request.marks.wrapper? = some server) (stopped : t.isFinished server = true) :
    ∃ span later, coordinator.activate request handler t = (some span, request.continueOn handler span, later) ∧
      Resumes t server handler request.marks span later := by
  rw [activate_over coordinator request handler t server undecided marked stopped]
  cases kept : (request.marks.continuation? handler).filter fun span => !t.isFinished span with
  | some span =>
      obtain ⟨held, running⟩ := Option.filter_eq_some_iff.mp kept
      rw [Bool.not_eq_true'] at running
      rw [resume_open coordinator server request handler t span held running]
      exact ⟨span, t, rfl, .reused held (t.is_finished_ledger span ▸ running), .inl rfl⟩
  | none =>
      have gone : ∀ span, request.marks.continuation? handler = some span → t.isFinished span = true := by
        simpa [Option.filter_eq_none_iff] using kept
      rw [resume_fresh coordinator server request handler t gone]
      refine ⟨_, _, rfl, ?_, .inr (continue_span_labelled coordinator server handler t)⟩
      rw [continue_span_ledger]
      exact .opened (fun span held => t.is_finished_ledger span ▸ gone span held) (t.next_context_next _) rfl

theorem pre_handle_running (coordinator : HandlerCoordinator) (request : Request) (handler : Handler) (t : Telemetry)
    (server : SpanContext) (undecided : request.marks.untraced = false) (resumed : request.marks.asyncPending = false)
    (marked : request.marks.wrapper? = some server) (running : t.isFinished server = false) :
    coordinator.preHandle request handler t = (request, coordinator.invoke (.preHandle request handler) server t) := by
  simp [preHandle, resumed, activate_running coordinator request handler t server undecided marked running]

theorem after_completion_running (coordinator : HandlerCoordinator) (request : Request) (response? : Option Response)
    (handler : Handler) (fault? : Option Fault) (t : Telemetry) (server : SpanContext)
    (undecided : request.marks.untraced = false) (marked : request.marks.wrapper? = some server)
    (running : t.isFinished server = false) (apart : request.marks.continuation? handler ≠ some server) :
    coordinator.afterCompletion request response? handler fault? t =
      (request, coordinator.invoke (.afterCompletion request handler response? fault?) server t) := by
  simp [afterCompletion, activate_running coordinator request handler t server undecided marked running, apart]

theorem async_started_running (coordinator : HandlerCoordinator) (request : Request) (handler : Handler) (t : Telemetry)
    (server : SpanContext) (undecided : request.marks.untraced = false)
    (marked : request.marks.wrapper? = some server) (running : t.isFinished server = false) :
    coordinator.asyncStarted request handler t =
      ({ request with marks := { request.marks with asyncPending := true } },
        coordinator.invoke (.asyncStarted request handler) server t) := by
  simp [asyncStarted, activate_running coordinator request handler t server undecided marked running]

theorem pre_handle_pending (coordinator : HandlerCoordinator) (request : Request) (handler : Handler) (t : Telemetry)
    (pending : request.marks.asyncPending = true) :
    (coordinator.preHandle request handler t).1 = { request with marks := { request.marks with asyncPending := false } } ∧
      (coordinator.preHandle request handler t).2.ledger = t.ledger := by
  simp [preHandle, pending]

theorem grows_invoke (coordinator : HandlerCoordinator) (hook : Hook) (span : SpanContext) (t : Telemetry) :
    t.Grows (coordinator.invoke hook span t) := coordinator.decorators.grows_round hook span t

theorem pre_handle_resumes (coordinator : HandlerCoordinator) (request : Request) (handler : Handler) (t : Telemetry)
    (server : SpanContext) (undecided : request.marks.untraced = false) (resumed : request.marks.asyncPending = false)
    (marked : request.marks.wrapper? = some server) (stopped : t.isFinished server = true) :
    ∃ span later, Resumes t server handler request.marks span later ∧
      later.Grows (coordinator.preHandle request handler t).2 ∧
      (coordinator.preHandle request handler t).1 = request.continueOn handler span ∧
      (coordinator.preHandle request handler t).2.ledger = later.ledger.note
        (coordinator.decorators.milestones (.preHandle (request.continueOn handler span) handler) (some span)) := by
  obtain ⟨span, later, activated, resumes⟩ := activate_resumes coordinator request handler t server undecided marked stopped
  refine ⟨span, later, resumes, ?_⟩
  simp [preHandle, resumed, activated, grows_invoke]

theorem async_started_resumes (coordinator : HandlerCoordinator) (request : Request) (handler : Handler) (t : Telemetry)
    (server : SpanContext) (undecided : request.marks.untraced = false)
    (marked : request.marks.wrapper? = some server) (stopped : t.isFinished server = true) :
    ∃ span later, Resumes t server handler request.marks span later ∧
      later.Grows (coordinator.asyncStarted request handler t).2 ∧
      (coordinator.asyncStarted request handler t).1.marks =
        { (request.continueOn handler span).marks with asyncPending := true } ∧
      (coordinator.asyncStarted request handler t).2.ledger = later.ledger.note
        (coordinator.decorators.milestones (.asyncStarted (request.continueOn handler span) handler) (some span)) := by
  obtain ⟨span, later, activated, resumes⟩ := activate_resumes coordinator request handler t server undecided marked stopped
  refine ⟨span, later, resumes, ?_⟩
  simp [asyncStarted, activated, grows_invoke]

theorem after_completion_resumes (coordinator : HandlerCoordinator) (request : Request) (response? : Option Response)
    (handler : Handler) (fault? : Option Fault) (t : Telemetry) (server : SpanContext)
    (undecided : request.marks.untraced = false) (marked : request.marks.wrapper? = some server)
    (stopped : t.isFinished server = true) :
    ∃ span later, Resumes t server handler request.marks span later ∧
      later.Grows (coordinator.afterCompletion request response? handler fault? t).2 ∧
      (coordinator.afterCompletion request response? handler fault? t).1.marks =
        { (request.continueOn handler span).marks with active? := some (.of server) } ∧
      (coordinator.afterCompletion request response? handler fault? t).2.ledger = (later.ledger.note
        (coordinator.decorators.milestones
          (.afterCompletion (request.continueOn handler span) handler response? fault?) (some span))).close span := by
  obtain ⟨span, later, activated, resumes⟩ := activate_resumes coordinator request handler t server undecided marked stopped
  refine ⟨span, later, resumes, ?_⟩
  have owned : (request.continueOn handler span).marks.continuation? handler = some span :=
    put_continuation_self request.marks.continuations handler span
  have kept : (request.continueOn handler span).marks.wrapper? = some server := marked
  have still : (coordinator.invoke (.afterCompletion (request.continueOn handler span) handler response? fault?) span
      later).isFinished span = false := by
    rw [Telemetry.is_finished_ledger, invoke_ledger, Ledger.finished_note]
    exact resumption_running _ _ server span handler request.marks resumes.resumption
  simp only [afterCompletion, activated, owned, if_true, endContinuation, kept]
  refine ⟨Telemetry.grows_trans (coordinator.grows_invoke _ span later) (Telemetry.grows_finish _ span), trivial, ?_⟩
  rw [(Telemetry.finish_running _ span still).2, invoke_ledger]

theorem pre_handle_opens (coordinator : HandlerCoordinator) (request : Request) (handler : Handler)
    (t : Telemetry) (server : SpanContext) (undecided : request.marks.untraced = false)
    (resumed : request.marks.asyncPending = false) (marked : request.marks.wrapper? = some server)
    (stopped : t.isFinished server = true)
    (idle : ∀ kept, request.marks.continuation? handler = some kept → t.isFinished kept = true) :
    let span := t.nextContext (.of server)
    (coordinator.preHandle request handler t).1 = request.continueOn handler span ∧
      (coordinator.preHandle request handler t).2.ledger = (t.ledger.start span (some server) [server]).note
        (coordinator.decorators.milestones (.preHandle (request.continueOn handler span) handler) (some span)) := by
  simp [preHandle, resumed, activate_over coordinator request handler t server undecided marked stopped,
    resume_fresh coordinator server request handler t idle, continue_span_ledger]

theorem after_completion_own (coordinator : HandlerCoordinator) (request : Request)
    (response? : Option Response) (handler : Handler) (fault? : Option Fault) (t : Telemetry) (server span : SpanContext)
    (undecided : request.marks.untraced = false) (marked : request.marks.wrapper? = some server)
    (stopped : t.isFinished server = true) (held : request.marks.continuation? handler = some span)
    (active : request.marks.active? = some (.of span)) (running : t.ledger.finished span = false) :
    (coordinator.afterCompletion request response? handler fault? t).2.ledger = (t.ledger.note
      (coordinator.decorators.milestones (.afterCompletion request handler response? fault?) (some span))).close span := by
  obtain ⟨kept, later, resumes, _, _, ledger⟩ :=
    coordinator.after_completion_resumes request response? handler fault? t server undecided marked stopped
  have resumption := resumes.resumption
  generalize later.ledger = reached at ledger resumption
  cases resumption with
  | reused known _ =>
      obtain rfl : kept = span := Option.some.inj (known.symm.trans held)
      rw [ledger, request.continue_on_own handler kept held active]
  | opened stopped _ _ =>
      rw [stopped span held] at running
      contradiction

theorem grows_report_missing (coordinator : HandlerCoordinator) (handler : Handler) (t : Telemetry) :
    t.Grows (coordinator.reportMissing handler t) := by
  unfold reportMissing
  split
  · exact t.grows_self
  · exact Telemetry.grows_trans (Telemetry.grows_same t { t with reported := coordinator.name :: t.reported } rfl)
      (Telemetry.grows_log _ _ _ _)

theorem grows_activate (coordinator : HandlerCoordinator) (request : Request) (handler : Handler) (t : Telemetry) :
    t.Grows (coordinator.activate request handler t).2.2 := by
  unfold activate
  split
  · exact t.grows_self
  · split
    · exact coordinator.grows_report_missing handler t
    · dsimp only
      split
      · exact t.grows_self
      · unfold resume
        dsimp only
        split
        · exact t.grows_self
        · exact coordinator.grows_continue_span _ handler t

theorem grows_pre_handle (coordinator : HandlerCoordinator) (request : Request) (handler : Handler) (t : Telemetry) :
    t.Grows (coordinator.preHandle request handler t).2 := by
  have activated := coordinator.grows_activate request handler t
  unfold preHandle
  split
  · exact t.grows_log _ _ _
  · split
    · rename_i next later found
      simpa only [found] using activated
    · rename_i span next later found
      rw [found] at activated
      exact Telemetry.grows_trans activated (coordinator.grows_invoke _ span later)

theorem grows_async_started (coordinator : HandlerCoordinator) (request : Request) (handler : Handler) (t : Telemetry) :
    t.Grows (coordinator.asyncStarted request handler t).2 := by
  have activated := coordinator.grows_activate request handler t
  unfold asyncStarted
  dsimp only
  split
  · rename_i next later found
    simpa only [found] using activated
  · rename_i span next later found
    rw [found] at activated
    exact Telemetry.grows_trans activated (coordinator.grows_invoke _ span later)

theorem grows_after_completion (coordinator : HandlerCoordinator) (request : Request) (response? : Option Response)
    (handler : Handler) (fault? : Option Fault) (t : Telemetry) :
    t.Grows (coordinator.afterCompletion request response? handler fault? t).2 := by
  have activated := coordinator.grows_activate request handler t
  have ended : ∀ (span : SpanContext) (next : Request) (before : Telemetry),
      before.Grows (endContinuation span next before).2 := by
    intro span next before
    unfold endContinuation
    dsimp only
    split <;> exact before.grows_finish span
  unfold afterCompletion
  split
  · rename_i next later found
    simpa only [found] using activated
  · rename_i span next later found
    rw [found] at activated
    dsimp only
    split
    · exact Telemetry.grows_trans activated (Telemetry.grows_trans (coordinator.grows_invoke _ span later) (ended _ _ _))
    · exact Telemetry.grows_trans activated (coordinator.grows_invoke _ span later)

end HandlerCoordinator

end RequestSpans
