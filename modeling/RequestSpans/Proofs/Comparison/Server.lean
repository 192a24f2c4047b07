import RequestSpans.Proofs.Comparison.Basic
import RequestSpans.Proofs.Server.Suspension

set_option autoImplicit false

namespace RequestSpans.Pairing

variable {P : Pairing}

def boundaries (P : Pairing) (a b : ServerBoundary) : Prop :=
  ∃ chain, b = { a with decorators := chain } ∧ P.chains a.decorators chain

def coordinators (P : Pairing) (a b : HandlerCoordinator) : Prop :=
  ∃ chain, b = { a with decorators := chain } ∧ P.chains a.decorators chain

def Secures (P : Pairing) (w : P.World) (t : Telemetry) (request : Request) : Prop :=
  ∀ span ∈ request.marks.spans, P.covers w t (.span span)

-- A request may come to a handler: it was entered, or it is no matter that it was not.
def Admits (P : Pairing) (w : P.World) (t : Telemetry) (request : Request) : Prop :=
  request.entered = false → P.covers w t .missing

section Steps

variable {w : P.World} {t u t' u' : Telemetry} {request : Request}

theorem secures_moves (moves : P.Moves w t u t' u') (secure : P.Secures w t request) : P.Secures w t' request :=
  fun span member => moves.keeps _ (secure span member)

theorem secures_wrapper (secure : P.Secures w t request) {server : SpanContext}
    (marked : request.marks.wrapper? = some server) : P.covers w t (.span server) :=
  secure server (by simp [Marks.spans, marked])

theorem secures_continuation (secure : P.Secures w t request) {handler : Handler} {span : SpanContext}
    (held : request.marks.continuation? handler = some span) : P.covers w t (.span span) := by
  obtain ⟨entry, found, same⟩ := Option.map_eq_some_iff.mp held
  have member : span ∈ request.marks.continuations.map (·.2) := same ▸ List.mem_map_of_mem (List.mem_of_find?_eq_some found)
  exact secure span (by simp only [Marks.spans, List.mem_append]; exact .inr member)

theorem secures_of (server : ∀ span, request.marks.wrapper? = some span → P.covers w t (.span span))
    (active : ∀ span, request.marks.active?.bind (·.span?) = some span → P.covers w t (.span span))
    (continued : ∀ entry ∈ request.marks.continuations, P.covers w t (.span entry.2)) : P.Secures w t request := by
  intro span member
  simp only [Marks.spans, List.mem_append, Option.mem_toList, List.mem_map] at member
  rcases member with (marked | active') | ⟨entry, listed, rfl⟩
  · exact server span marked
  · exact active span active'
  · exact continued entry listed

theorem secures_table (secure : P.Secures w t request) :
    ∀ entry ∈ request.marks.continuations, P.covers w t (.span entry.2) :=
  fun entry member => secure entry.2 (by
    simp only [Marks.spans, List.mem_append]
    exact .inr (List.mem_map_of_mem member))

theorem secures_with_server (secure : P.Secures w t request) {span : SpanContext} (covered : P.covers w t (.span span)) :
    P.Secures w t (request.withServer span) := by
  have table := secures_table secure
  refine secures_of ?_ ?_ table
  · rintro other ⟨⟩
    exact covered
  · rintro other ⟨⟩
    exact covered

theorem secures_continue (secure : P.Secures w t request) (handler : Handler) {span : SpanContext}
    (covered : P.covers w t (.span span)) : P.Secures w t (request.continueOn handler span) := by
  refine secures_of (fun server marked => secures_wrapper secure marked) ?_ ?_
  · rintro other ⟨⟩
    exact covered
  · intro entry member
    rcases put_continuation_member request.marks.continuations handler span entry member with rfl | old
    · exact covered
    · exact secures_table secure entry old

end Steps

theorem secures_same {w : P.World} {t : Telemetry} {request next : Request} (secure : P.Secures w t request)
    (same : next.marks.spans = request.marks.spans) : P.Secures w t next :=
  fun span member => secure span (same ▸ member)

section Boundary

variable {w : P.World} {t u : Telemetry} {a b : ServerBoundary} {request : Request}

theorem moves_is_traced (request : Request) (alike : P.boundaries a b) (rel : P.rel w t u) :
    (a.isTraced request t).1 = (b.isTraced request u).1 ∧
      P.Moves w t u (a.isTraced request t).2 (b.isTraced request u).2 := by
  obtain ⟨chain, rfl, _⟩ := alike
  unfold ServerBoundary.isTraced
  dsimp only
  split
  · exact ⟨rfl, moves_self rel⟩
  · split
    · exact ⟨rfl, moves_log _ _ _ rel⟩
    · split
      · exact ⟨rfl, moves_log _ _ _ rel⟩
      · exact ⟨rfl, moves_self rel⟩

theorem propagator_same (inst : Instrumentation) (rel : P.rel w t u) : inst.propagator t = inst.propagator u := by
  rw [Instrumentation.propagator, Instrumentation.propagator, P.installed rel]

theorem extract_same (inst : Instrumentation) (headers : Headers) (rel : P.rel w t u) (here : t.current = u.current) :
    inst.extract headers t = inst.extract headers u := by
  rw [Instrumentation.extract, Instrumentation.extract, propagator_same inst rel, here]

theorem moves_open_span (alike : P.boundaries a b) (rel : P.rel w t u) (secure : P.Secures w t request)
    (here : t.current = u.current) :
    (a.openSpan request t).1 = (b.openSpan request u).1 ∧ (a.openSpan request t).2.1 = (b.openSpan request u).2.1 ∧
      P.Moves w t u (a.openSpan request t).2.2 (b.openSpan request u).2.2 ∧
      P.Secures w (a.openSpan request t).2.2 (a.openSpan request t).2.1 := by
  obtain ⟨chain, rfl, chains⟩ := alike
  have parent := extract_same a.instrumentation request.headers rel here
  obtain ⟨same, started, covered⟩ := moves_start request.method .server (a.parent request t)
    [("span.kind", .text SpanKind.server.tag)] [] rel
  have decorated := moves_round (.request (request.withServer (a.serverSpan request t))) chains started.rel covered
  have moves := moves_trans started decorated
  have secured := secures_with_server (secures_moves moves secure) (decorated.keeps _ covered)
  have opened : ({ a with decorators := chain } : ServerBoundary).openSpan request u =
      (a.serverSpan request t, request.withServer (a.serverSpan request t),
        ((u.startSpan request.method .server (a.parent request t) [("span.kind", .text SpanKind.server.tag)] []).2.within
          (.of (a.serverSpan request t)) fun u =>
            ((), chain.invoke (.request (request.withServer (a.serverSpan request t))) (some (a.serverSpan request t)) u)).2) := by
    rw [ServerBoundary.serverSpan, same, ServerBoundary.parent, parent]
    rfl
  rw [opened]
  exact ⟨rfl, rfl, moves, secured⟩

-- Entering looks at the ambient context only to open a span.
theorem moves_enter (alike : P.boundaries a b) (rel : P.rel w t u) (secure : P.Secures w t request)
    (here : request.entered = false → a.traces request = true → t.current = u.current) :
    (a.enter request t).1 = (b.enter request u).1 ∧ (a.enter request t).2.1 = (b.enter request u).2.1 ∧
      P.Moves w t u (a.enter request t).2.2 (b.enter request u).2.2 ∧
      P.Secures w (a.enter request t).2.2 (a.enter request t).2.1 ∧ (a.enter request t).2.1.entered = true := by
  cases marked : request.marks.wrapper? with
  | some server =>
      rw [a.enter_again request t server marked, b.enter_again request u server marked]
      exact ⟨rfl, rfl, moves_self rel, secure, by simp [Request.entered, marked]⟩
  | none =>
      cases decided : request.marks.untraced with
      | true =>
          simp only [ServerBoundary.enter, marked, decided, if_true, Bool.false_eq_true, if_false]
          exact ⟨trivial, trivial, moves_self rel, secures_same secure (by simp [Marks.spans, marked]), rfl⟩
      | false =>
          have opening : (a.isTraced request t).1 = true → t.current = u.current := by
            intro accepted
            refine here (by simp [Request.entered, marked, decided]) (Bool.not_eq_false _ ▸ fun refused => ?_)
            rw [(a.is_traced_refuses request t refused).1] at accepted
            contradiction
          obtain ⟨same, asked⟩ := moves_is_traced request alike rel
          simp only [ServerBoundary.enter, marked, decided, Bool.false_eq_true, if_false, ← same]
          split
          · rename_i accepted
            obtain ⟨span, travels, opened, secured⟩ := moves_open_span alike asked.rel (secures_moves asked secure)
              (moves_current asked (opening accepted))
            rw [← span, ← travels]
            exact ⟨rfl, rfl, moves_trans asked opened, secured, by simp [ServerBoundary.openSpan, Request.entered]⟩
          · exact ⟨rfl, rfl, asked, secures_same (secures_moves asked secure) (by simp [Marks.spans, marked]), rfl⟩

theorem enter_entered (a : ServerBoundary) (request : Request) (t : Telemetry) (entered : request.entered = true) :
    (a.enter request t).2.1 = request := by
  obtain ⟨method, uri, version, headers, body, marks⟩ := request
  obtain ⟨untraced, pending, wrapper?, active?, continuations⟩ := marks
  cases wrapper? with
  | some server => rfl
  | none =>
      obtain rfl : untraced = true := by simpa [Request.entered] using entered
      rfl

theorem entered_marked (a : ServerBoundary) (request : Request) (t : Telemetry) (span : SpanContext)
    (started : (a.enter request t).1 = .started span) : (a.enter request t).2.1.marks.wrapper? = some span := by
  cases marked : request.marks.wrapper? with
  | some server =>
      rw [a.enter_again request t server marked] at started
      contradiction
  | none =>
      cases decided : request.marks.untraced with
      | true => simp [ServerBoundary.enter, marked, decided] at started
      | false =>
          simp only [ServerBoundary.enter, marked, decided, Bool.false_eq_true, if_false] at started ⊢
          by_cases traced : (a.isTraced request t).1 = true
          · simp only [traced, if_true] at started ⊢
            obtain rfl := Admission.started.inj started
            rfl
          · simp [traced] at started

theorem moves_unfinished (rel : P.rel w t u) (secure : P.Secures w t request) :
    (ServerBoundary.unfinished request t).1 = (ServerBoundary.unfinished request u).1 ∧
      P.Moves w t u (ServerBoundary.unfinished request t).2 (ServerBoundary.unfinished request u).2 ∧
      ∀ span, (ServerBoundary.unfinished request t).1 = some span →
        P.covers w (ServerBoundary.unfinished request t).2 (.span span) := by
  unfold ServerBoundary.unfinished
  cases marked : request.marks.wrapper? with
  | none => exact ⟨rfl, moves_self rel, by simp⟩
  | some server =>
      have covered := secures_wrapper secure marked
      dsimp only
      rw [P.finished rel covered]
      split
      · exact ⟨rfl, moves_log _ _ _ rel, by simp⟩
      · refine ⟨rfl, moves_self rel, ?_⟩
        rintro span ⟨⟩
        exact covered

theorem close_looked (hook : Hook) (actions : List SpanAction) :
    a.close request hook actions t = match (ServerBoundary.unfinished request t).1 with
      | none => (ServerBoundary.unfinished request t).2
      | some span => ((ServerBoundary.unfinished request t).2.within (.of span) fun t =>
          ((), (((a.decorators.invoke hook (some span) t).act span actions).finish span).2)).2 := by
  rw [ServerBoundary.close]
  rcases ServerBoundary.unfinished request t with ⟨none_ | span, later⟩ <;> rfl

theorem cancel_looked :
    a.cancel request t = match (ServerBoundary.unfinished request t).1 with
      | none => (ServerBoundary.unfinished request t).2
      | some span =>
          (((ServerBoundary.unfinished request t).2.log .debug "request cancelled" [("span_id", span.spanHex)]).finish
            span).2 := by
  rw [ServerBoundary.cancel]
  rcases ServerBoundary.unfinished request t with ⟨none_ | span, later⟩ <;> rfl

theorem moves_close (hook : Hook) (actions : List SpanAction) (alike : P.boundaries a b) (rel : P.rel w t u)
    (secure : P.Secures w t request) :
    P.Moves w t u (a.close request hook actions t) (b.close request hook actions u) := by
  obtain ⟨chain, rfl, chains⟩ := alike
  obtain ⟨same, looked, covered⟩ := moves_unfinished rel secure
  rw [close_looked, close_looked, ← same]
  cases open_ : (ServerBoundary.unfinished request t).1 with
  | none => exact looked
  | some span =>
      obtain ⟨attached, reached⟩ := moves_attached (.of span) looked.rel (covered span open_)
      have decorated := moves_invoke hook chains attached reached rfl rfl
      have acted := moves_trans decorated (moves_act actions decorated.rel (.inl (decorated.keeps _ reached)))
      have finished := moves_trans acted (moves_finish acted.rel (acted.keeps _ reached)).2
      exact moves_trans looked (moves_within _ _ _ finished)

theorem moves_complete (response : Response) (alike : P.boundaries a b) (rel : P.rel w t u)
    (secure : P.Secures w t request) :
    P.Moves w t u (a.complete request response t) (b.complete request response u) := by
  unfold ServerBoundary.complete
  split
  · exact moves_log _ _ _ rel
  · exact moves_close _ _ alike rel secure

theorem moves_fail (fault : Fault) (alike : P.boundaries a b) (rel : P.rel w t u) (secure : P.Secures w t request) :
    P.Moves w t u (a.fail request fault t) (b.fail request fault u) :=
  moves_close _ _ alike rel secure

theorem moves_cancel (a b : ServerBoundary) (rel : P.rel w t u) (secure : P.Secures w t request) :
    P.Moves w t u (a.cancel request t) (b.cancel request u) := by
  obtain ⟨same, looked, covered⟩ := moves_unfinished rel secure
  rw [cancel_looked, cancel_looked, ← same]
  cases open_ : (ServerBoundary.unfinished request t).1 with
  | none => exact looked
  | some span =>
      have logged := moves_trans looked (moves_log .debug "request cancelled" [("span_id", span.spanHex)] looked.rel)
      have reached := (moves_log .debug "request cancelled" [("span_id", span.spanHex)] looked.rel).keeps _ (covered span open_)
      exact moves_trans logged (moves_finish logged.rel reached).2

end Boundary

section Coordinator

variable {w : P.World} {t u : Telemetry} {a b : HandlerCoordinator} {request : Request}

theorem moves_continue_span (a b : HandlerCoordinator) (server : SpanContext) (handler : Handler) (rel : P.rel w t u) :
    (a.continueSpan server handler t).1 = (b.continueSpan server handler u).1 ∧
      P.Moves w t u (a.continueSpan server handler t).2 (b.continueSpan server handler u).2 ∧
      P.covers w (a.continueSpan server handler t).2 (.span (a.continueSpan server handler t).1) := by
  obtain ⟨same, started, covered⟩ := moves_start handler.operationName .server (.of server)
    [("span.kind", .text SpanKind.server.tag)] [server] rel
  have named := moves_trans started
    (moves_act [.tag ("handler", .text handler.display)] started.rel (.inl covered))
  have reached := (moves_act [.tag ("handler", .text handler.display)] started.rel (.inl covered)).keeps _ covered
  have logged := moves_log .debug "opened continuation span"
    [("handler", handler.display), ("follows_from", server.spanHex)] named.rel
  have opened : ∀ (c : HandlerCoordinator) (t : Telemetry), c.continueSpan server handler t = (t.nextContext (.of server),
      ((t.startSpan handler.operationName .server (.of server) [("span.kind", .text SpanKind.server.tag)] [server]).2.act
        (t.nextContext (.of server)) [.tag ("handler", .text handler.display)]).log .debug "opened continuation span"
          [("handler", handler.display), ("follows_from", server.spanHex)]) := fun _ _ => rfl
  rw [opened, opened, ← same]
  exact ⟨rfl, moves_trans named logged, logged.keeps _ reached⟩

theorem moves_resume (a b : HandlerCoordinator) (server : SpanContext) (handler : Handler) (rel : P.rel w t u) (secure : P.Secures w t request) :
    (a.resume server request handler t).1 = (b.resume server request handler u).1 ∧
      (a.resume server request handler t).2.1 = (b.resume server request handler u).2.1 ∧
      P.Moves w t u (a.resume server request handler t).2.2 (b.resume server request handler u).2.2 ∧
      P.Secures w (a.resume server request handler t).2.2 (a.resume server request handler t).2.1 ∧
      P.covers w (a.resume server request handler t).2.2 (.span (a.resume server request handler t).1) := by
  by_cases kept : ∃ span, request.marks.continuation? handler = some span ∧ t.isFinished span = false
  · obtain ⟨span, held, running⟩ := kept
    have covered := secures_continuation secure held
    have running' : u.isFinished span = false := (P.finished rel covered).symm.trans running
    rw [a.resume_open server request handler t span held running, b.resume_open server request handler u span held running']
    exact ⟨rfl, rfl, moves_self rel, secures_continue secure handler covered, covered⟩
  · have stopped : ∀ span, request.marks.continuation? handler = some span → t.isFinished span = true := by
      intro span held
      cases stopped : t.isFinished span with
      | true => rfl
      | false => exact absurd ⟨span, held, stopped⟩ kept
    have stopped' : ∀ span, request.marks.continuation? handler = some span → u.isFinished span = true :=
      fun span held => (P.finished rel (secures_continuation secure held)).symm.trans (stopped span held)
    obtain ⟨same, moves, covered⟩ := moves_continue_span a b server handler rel
    have opened : t.nextContext (.of server) = u.nextContext (.of server) := same
    rw [a.resume_fresh server request handler t stopped, b.resume_fresh server request handler u stopped', ← opened]
    exact ⟨rfl, rfl, moves, secures_continue (secures_moves moves secure) handler covered, covered⟩

theorem activate_entered (a : HandlerCoordinator) (request : Request) (handler : Handler) (t : Telemetry) :
    (a.activate request handler t).2.1.entered = request.entered := by
  cases decided : request.marks.untraced with
  | true => rw [a.activate_untraced request handler t decided]
  | false =>
      cases marked : request.marks.wrapper? with
      | none => rw [a.activate_missing request handler t decided marked]
      | some server =>
          cases stopped : t.isFinished server with
          | false => rw [a.activate_running request handler t server decided marked stopped]
          | true =>
              rw [a.activate_over request handler t server decided marked stopped]
              simp [HandlerCoordinator.resume, Request.entered]

theorem activate_inactive (a : HandlerCoordinator) (request : Request) (handler : Handler) (t : Telemetry)
    (inactive : (a.activate request handler t).2.1.marks.active? = none) : request.marks.active? = none := by
  cases decided : request.marks.untraced with
  | true => rwa [a.activate_untraced request handler t decided] at inactive
  | false =>
      cases marked : request.marks.wrapper? with
      | none => rwa [a.activate_missing request handler t decided marked] at inactive
      | some server =>
          cases stopped : t.isFinished server with
          | false => rwa [a.activate_running request handler t server decided marked stopped] at inactive
          | true =>
              rw [a.activate_over request handler t server decided marked stopped] at inactive
              contradiction

theorem moves_activate (handler : Handler) (alike : P.coordinators a b) (rel : P.rel w t u)
    (secure : P.Secures w t request) (admits : P.Admits w t request) :
    (a.activate request handler t).1 = (b.activate request handler u).1 ∧
      (a.activate request handler t).2.1 = (b.activate request handler u).2.1 ∧
      P.Moves w t u (a.activate request handler t).2.2 (b.activate request handler u).2.2 ∧
      P.Secures w (a.activate request handler t).2.2 (a.activate request handler t).2.1 ∧
      ∀ span, (a.activate request handler t).1 = some span → P.covers w (a.activate request handler t).2.2 (.span span) := by
  obtain ⟨chain, rfl, _⟩ := alike
  cases decided : request.marks.untraced with
  | true =>
      rw [HandlerCoordinator.activate_untraced _ request handler t decided,
        HandlerCoordinator.activate_untraced _ request handler u decided]
      exact ⟨rfl, rfl, moves_self rel, secure, by simp⟩
  | false =>
      cases marked : request.marks.wrapper? with
      | none =>
          rw [HandlerCoordinator.activate_missing _ request handler t decided marked,
            HandlerCoordinator.activate_missing _ request handler u decided marked]
          have reported := moves_report a { a with decorators := chain } handler rel
            (admits (by simp [Request.entered, decided, marked])) rfl
          exact ⟨rfl, rfl, reported, secures_moves reported secure, by simp⟩
      | some server =>
          have covered := secures_wrapper secure marked
          have same := P.finished rel covered
          cases stopped : u.isFinished server with
          | false =>
              rw [HandlerCoordinator.activate_running _ request handler t server decided marked (same.trans stopped),
                HandlerCoordinator.activate_running _ request handler u server decided marked stopped]
              refine ⟨rfl, rfl, moves_self rel, secure, ?_⟩
              rintro span ⟨⟩
              exact covered
          | true =>
              rw [HandlerCoordinator.activate_over _ request handler t server decided marked (same.trans stopped),
                HandlerCoordinator.activate_over _ request handler u server decided marked stopped]
              obtain ⟨span, travels, moves, secured, reached⟩ :=
                moves_resume a { a with decorators := chain } server handler rel secure
              refine ⟨congrArg some span, travels, moves, secured, ?_⟩
              rintro other ⟨⟩
              exact reached

theorem moves_handler_round (hook : Hook) {span : SpanContext} (alike : P.coordinators a b) (rel : P.rel w t u)
    (covered : P.covers w t (.span span)) :
    P.Moves w t u (a.invoke hook span t) (b.invoke hook span u) := by
  obtain ⟨chain, rfl, chains⟩ := alike
  exact moves_round hook chains rel covered

theorem pre_handle_activated (handler : Handler) (present : request.marks.asyncPending = false) :
    a.preHandle request handler t = ((a.activate request handler t).2.1,
      match (a.activate request handler t).1 with
      | none => (a.activate request handler t).2.2
      | some span =>
          a.invoke (.preHandle (a.activate request handler t).2.1 handler) span (a.activate request handler t).2.2) := by
  simp only [HandlerCoordinator.preHandle, present, Bool.false_eq_true, if_false]
  rcases a.activate request handler t with ⟨none_ | span, next, later⟩ <;> rfl

theorem pre_handle_inactive (handler : Handler) (inactive : (a.preHandle request handler t).1.marks.active? = none) :
    request.marks.active? = none := by
  cases pending : request.marks.asyncPending with
  | true => rwa [(a.pre_handle_pending request handler t pending).1] at inactive
  | false =>
      rw [pre_handle_activated handler pending] at inactive
      exact activate_inactive a request handler t inactive

theorem async_started_activated (handler : Handler) :
    a.asyncStarted request handler t = ((a.activate request handler t).2.1.suspended,
      match (a.activate request handler t).1 with
      | none => (a.activate request handler t).2.2
      | some span =>
          a.invoke (.asyncStarted (a.activate request handler t).2.1 handler) span (a.activate request handler t).2.2) := by
  rw [HandlerCoordinator.asyncStarted]
  rcases a.activate request handler t with ⟨none_ | span, next, later⟩ <;> rfl

theorem moves_pre_handle (handler : Handler) (alike : P.coordinators a b) (rel : P.rel w t u)
    (secure : P.Secures w t request) (admits : P.Admits w t request) :
    (a.preHandle request handler t).1 = (b.preHandle request handler u).1 ∧
      P.Moves w t u (a.preHandle request handler t).2 (b.preHandle request handler u).2 ∧
      P.Secures w (a.preHandle request handler t).2 (a.preHandle request handler t).1 ∧
      (a.preHandle request handler t).1.entered = request.entered := by
  cases pending : request.marks.asyncPending with
  | true =>
      have logged := moves_log .debug "async dispatch resumed" [("handler", handler.display)] rel
      simp only [HandlerCoordinator.preHandle, pending, if_true]
      exact ⟨trivial, logged, secures_same (secures_moves logged secure) rfl, rfl⟩
  | false =>
      obtain ⟨same, travels, moves, secured, covered⟩ := moves_activate handler alike rel secure admits
      have entered := activate_entered a request handler t
      rw [pre_handle_activated handler pending, pre_handle_activated handler pending, ← same, ← travels]
      cases activated : (a.activate request handler t).1 with
      | none => exact ⟨rfl, moves, secured, entered⟩
      | some span =>
          have decorated := moves_handler_round (.preHandle (a.activate request handler t).2.1 handler) alike moves.rel
            (covered span activated)
          exact ⟨rfl, moves_trans moves decorated, secures_moves decorated secured, entered⟩

theorem moves_async_started (handler : Handler) (alike : P.coordinators a b) (rel : P.rel w t u)
    (secure : P.Secures w t request) (admits : P.Admits w t request) :
    (a.asyncStarted request handler t).1 = (b.asyncStarted request handler u).1 ∧
      P.Moves w t u (a.asyncStarted request handler t).2 (b.asyncStarted request handler u).2 ∧
      P.Secures w (a.asyncStarted request handler t).2 (a.asyncStarted request handler t).1 := by
  obtain ⟨same, travels, moves, secured, covered⟩ := moves_activate handler alike rel secure admits
  rw [async_started_activated, async_started_activated, ← same, ← travels]
  cases activated : (a.activate request handler t).1 with
  | none => exact ⟨rfl, moves, secures_same secured rfl⟩
  | some span =>
      have decorated := moves_handler_round (.asyncStarted (a.activate request handler t).2.1 handler) alike moves.rel
        (covered span activated)
      exact ⟨rfl, moves_trans moves decorated, secures_same (secures_moves decorated secured) rfl⟩

theorem moves_end_continuation {span : SpanContext} (rel : P.rel w t u) (secure : P.Secures w t request)
    (covered : P.covers w t (.span span)) :
    (HandlerCoordinator.endContinuation span request t).1 = (HandlerCoordinator.endContinuation span request u).1 ∧
      P.Moves w t u (HandlerCoordinator.endContinuation span request t).2
        (HandlerCoordinator.endContinuation span request u).2 ∧
      P.Secures w (HandlerCoordinator.endContinuation span request t).2
        (HandlerCoordinator.endContinuation span request t).1 := by
  have finished := (moves_finish rel covered).2
  have secured := secures_moves finished secure
  cases marked : request.marks.wrapper? with
  | none =>
      simp only [HandlerCoordinator.endContinuation, marked]
      exact ⟨trivial, finished, secured⟩
  | some server =>
      have wrapped := secures_wrapper secured marked
      simp only [HandlerCoordinator.endContinuation, marked]
      have table := secures_table secured
      refine ⟨trivial, finished, secures_of ?_ ?_ table⟩
      · rintro other ⟨⟩
        exact wrapped
      · rintro other ⟨⟩
        exact wrapped

theorem after_completion_activated (handler : Handler) (response? : Option Response) (fault? : Option Fault) :
    a.afterCompletion request response? handler fault? t =
      match (a.activate request handler t).1 with
      | none => (a.activate request handler t).2
      | some span =>
          let next := (a.activate request handler t).2.1
          let later := a.invoke (.afterCompletion next handler response? fault?) span (a.activate request handler t).2.2
          if next.marks.continuation? handler = some span then HandlerCoordinator.endContinuation span next later
          else (next, later) := by
  rw [HandlerCoordinator.afterCompletion]
  rcases a.activate request handler t with ⟨none_ | span, next, later⟩ <;> rfl

theorem moves_after_completion (handler : Handler) (response? : Option Response) (fault? : Option Fault)
    (alike : P.coordinators a b) (rel : P.rel w t u) (secure : P.Secures w t request) (admits : P.Admits w t request) :
    (a.afterCompletion request response? handler fault? t).1 = (b.afterCompletion request response? handler fault? u).1 ∧
      P.Moves w t u (a.afterCompletion request response? handler fault? t).2
        (b.afterCompletion request response? handler fault? u).2 ∧
      P.Secures w (a.afterCompletion request response? handler fault? t).2
        (a.afterCompletion request response? handler fault? t).1 := by
  obtain ⟨same, travels, moves, secured, covered⟩ := moves_activate handler alike rel secure admits
  rw [after_completion_activated, after_completion_activated, ← same, ← travels]
  cases activated : (a.activate request handler t).1 with
  | none => exact ⟨travels, moves, secured⟩
  | some span =>
      have decorated := moves_handler_round
        (.afterCompletion (a.activate request handler t).2.1 handler response? fault?) alike moves.rel (covered span activated)
      have run := moves_trans moves decorated
      have kept := secures_moves decorated secured
      dsimp only
      split
      · obtain ⟨next, ended, secured⟩ := moves_end_continuation decorated.rel kept (decorated.keeps _ (covered span activated))
        exact ⟨next, moves_trans run ended, secured⟩
      · exact ⟨rfl, run, kept⟩

end Coordinator

section Operations

variable {w : P.World} {t u : Telemetry} {request : Request}

-- What an operation needs: where it may open a server span, the same current
-- span; and for a handler, a request that may come to it.
def Ready (P : Pairing) (w : P.World) (operation : Operation) (request : Request) (t u : Telemetry) : Prop :=
  match operation with
  | .enter boundary => request.entered = false → boundary.traces request = true → t.current = u.current
  | .preHandle _ _ | .asyncStarted _ _ | .afterCompletion _ _ _ _ => P.Admits w t request
  | _ => True

theorem moves_operation (alike : ∀ chain, P.chains chain chain) (operation : Operation) (rel : P.rel w t u)
    (secure : P.Secures w t request) (ready : P.Ready w operation request t u) :
    (operation.apply request t).1 = (operation.apply request u).1 ∧
      P.Moves w t u (operation.apply request t).2 (operation.apply request u).2 ∧
      P.Secures w (operation.apply request t).2 (operation.apply request t).1 := by
  have boundary : ∀ b, P.boundaries b b := fun b => ⟨b.decorators, rfl, alike _⟩
  have coordinator : ∀ c, P.coordinators c c := fun c => ⟨c.decorators, rfl, alike _⟩
  cases operation with
  | enter b =>
      obtain ⟨_, travels, moves, secured, _⟩ := moves_enter (boundary b) rel secure ready
      exact ⟨travels, moves, secured⟩
  | complete b response =>
      have moves := moves_complete response (boundary b) rel secure
      exact ⟨rfl, moves, secures_moves moves secure⟩
  | fail b fault =>
      have moves := moves_fail fault (boundary b) rel secure
      exact ⟨rfl, moves, secures_moves moves secure⟩
  | cancel b =>
      have moves := moves_cancel b b rel secure
      exact ⟨rfl, moves, secures_moves moves secure⟩
  | preHandle c handler =>
      obtain ⟨travels, moves, secured, _⟩ := moves_pre_handle handler (coordinator c) rel secure ready
      exact ⟨travels, moves, secured⟩
  | asyncStarted c handler => exact moves_async_started handler (coordinator c) rel secure ready
  | afterCompletion c response? handler fault? =>
      exact moves_after_completion handler response? fault? (coordinator c) rel secure ready
  | finish =>
      cases marked : request.marks.wrapper? with
      | none =>
          simp only [Operation.apply, marked]
          exact ⟨trivial, moves_self rel, secure⟩
      | some server =>
          have moves := (moves_finish rel (secures_wrapper secure marked)).2
          simp only [Operation.apply, marked]
          exact ⟨trivial, moves, secures_moves moves secure⟩

end Operations

end RequestSpans.Pairing
