import RequestSpans.Proofs.Comparison.Scripts
import RequestSpans.Proofs.Panics.Setup

set_option autoImplicit false

namespace RequestSpans.Scenario

section Relation

variable (crew : List Decorator) (tape : Tape)

def Owned (t : Telemetry) (a b : Task) : Prop :=
  ∃ mine, (hushing crew).Covers tape t mine ∧ (hushing crew).Tasks mine a b

def Instances (a b : Instance) : Prop :=
  a.queue = b.queue ∧ (hushing crew).Services [.localSpans] a.service b.service

structure Hushes (s q : Session) : Prop where
  tracing : q.tracing = s.tracing.hushed
  crewed : s.tracing.crew = crew
  hears : tape.Hears crew s.telemetry q.telemetry
  requests : q.requests = s.requests
  contexts : q.contexts = s.contexts
  queues : q.queues = s.queues
  calls : s.calls.Alike (hushing crew).Calls q.calls
  tasks : s.tasks.Alike (Owned crew tape s.telemetry) q.tasks
  guards : s.guards.Alike ((hushing crew).Guards []) q.guards
  services : s.services.Alike (Instances crew) q.services

def Tells (a b : Result × Session) : Prop := a.1 = b.1 ∧ Hushes crew tape a.2 b.2

end Relation

section Sessions

variable {crew : List Decorator} {tape : Tape} {s q : Session} {t u : Telemetry}

theorem hushes_boundaries (same : Hushes crew tape s q) : (hushing crew).boundaries s.tracing.boundary q.tracing.boundary := by
  rw [same.tracing, ← same.crewed]
  exact boundaries_hushed s.tracing

theorem hushes_interceptors (same : Hushes crew tape s q) :
    (hushing crew).interceptors s.tracing.interceptor q.tracing.interceptor := by
  rw [same.tracing, ← same.crewed]
  exact interceptors_hushed s.tracing

theorem hushes_coordinators (same : Hushes crew tape s q) (name : String) :
    (hushing crew).coordinators (s.tracing.coordinator name) (q.tracing.coordinator name) := by
  rw [same.tracing, ← same.crewed]
  exact coordinators_hushed s.tracing name

theorem hushes_rel (same : Hushes crew tape s q) : (hushing crew).rel tape s.telemetry q.telemetry := same.hears

theorem hushes_get (same : Hushes crew tape s q) (name : String) : q.requests.get? name = s.requests.get? name := by
  rw [same.requests]

theorem hushes_instrumentation (same : Hushes crew tape s q) : q.tracing.instrumentation = s.tracing.instrumentation := by
  rw [same.tracing]
  rfl

theorem hushes_debug (same : Hushes crew tape s q) : s.tracing.interceptor.debug = q.tracing.interceptor.debug := by
  rw [same.tracing]
  exact (debug_hushed s.tracing.interceptor).symm

theorem hushes_current (same : Hushes crew tape s q) : s.telemetry.current = q.telemetry.current :=
  Telemetry.aligned_reads same.hears.aligned Telemetry.current fun _ => rfl

-- Whatever a session holds, nothing of it needs more than that records only grow.
theorem hushes_telemetry (same : Hushes crew tape s q) (hears : tape.Hears crew t u)
    (keeps : ∀ stake, (hushing crew).covers tape s.telemetry stake → (hushing crew).covers tape t stake) :
    Hushes crew tape { s with telemetry := t } { q with telemetry := u } :=
  { same with
    hears := hears
    tasks := Bindings.alike_weaken same.tasks fun _ _ ⟨mine, covered, tasks⟩ =>
      ⟨mine, fun stake member => keeps stake (covered stake member), tasks⟩ }

theorem hushes_moves (same : Hushes crew tape s q) (moves : (hushing crew).Moves tape s.telemetry q.telemetry t u) :
    Hushes crew tape { s with telemetry := t } { q with telemetry := u } :=
  hushes_telemetry same moves.rel moves.keeps

theorem hushes_same (same : Hushes crew tape s q) (hears : tape.Hears crew t u) (spans : t.spans = s.telemetry.spans) :
    Hushes crew tape { s with telemetry := t } { q with telemetry := u } :=
  hushes_telemetry same hears fun _ => (hushing crew).lasts (Telemetry.grows_same _ _ spans)

theorem hushes_bind_request (same : Hushes crew tape s q) (name : String) (request : Request) :
    Hushes crew tape (s.bindRequest name request) (q.bindRequest name request) :=
  { same with requests := congrArg (fun requests : Bindings Request => requests.put name request) same.requests }

theorem hushes_bind_context (same : Hushes crew tape s q) (name : String) (context : Context) :
    Hushes crew tape (s.bindContext name context) (q.bindContext name context) :=
  { same with contexts := congrArg (fun contexts : Bindings Context => contexts.put name context) same.contexts }

theorem hushes_let_go {α : Type} {R : α → α → Prop} {drop : α → Telemetry → Telemetry} {a? b? : Option α}
    (same : Hushes crew tape s q) (old : Option.Rel R a? b?)
    (drops : ∀ a b, R a b → (hushing crew).Moves tape s.telemetry q.telemetry (drop a s.telemetry) (drop b q.telemetry)) :
    Hushes crew tape (s.letGo a? drop) (q.letGo b? drop) := by
  cases old with
  | none => exact same
  | some related => exact hushes_moves same (drops _ _ related)

theorem hushes_bind_task (same : Hushes crew tape s q) (name : String) {a b : Task} (owned : Owned crew tape s.telemetry a b) :
    Hushes crew tape (s.bindTask name a) (q.bindTask name b) :=
  hushes_let_go { same with tasks := Bindings.alike_put same.tasks name owned } (Bindings.alike_get same.tasks name)
    fun _ _ ⟨_, covered, tasks⟩ => Pairing.moves_drop tasks same.hears covered

theorem hushes_bind_guard (same : Hushes crew tape s q) (name : String) {g h : TerminalGuard}
    (guards : (hushing crew).Guards [] g h) : Hushes crew tape (s.bindGuard name g) (q.bindGuard name h) :=
  hushes_let_go { same with guards := Bindings.alike_put same.guards name guards } (Bindings.alike_get same.guards name)
    fun _ _ guards => Pairing.moves_guard_drop guards same.hears Pairing.covers_none

theorem covers_span (t : Telemetry) (span : SpanContext) : (hushing crew).covers tape t (.span span) := trivial

theorem covers_local_spans (t : Telemetry) : (hushing crew).covers tape t .localSpans := trivial

theorem covers_requests (t : Telemetry) (request : Request) : (hushing crew).Secures tape t request := fun _ _ => trivial

theorem covers_missing (t : Telemetry) (request : Request) : (hushing crew).Admits tape t request := fun _ => trivial

theorem covers_call (t : Telemetry) (call : ClientCall) : (hushing crew).Covers tape t call.stakes := by
  intro stake member
  obtain ⟨active, _, rfl⟩ := List.mem_map.mp member
  trivial

theorem hushes_bind_call (same : Hushes crew tape s q) (name : String) {a b : ClientCall} (calls : (hushing crew).Calls a b) :
    Hushes crew tape (s.bindCall name a) (q.bindCall name b) :=
  hushes_let_go { same with calls := Bindings.alike_put same.calls name calls } (Bindings.alike_get same.calls name)
    fun _ _ calls => Pairing.moves_call_drop calls same.hears (covers_call _ _)

theorem hushes_context (same : Hushes crew tape s q) (ref : ContextRef) : q.context ref = s.context ref := by
  cases ref with
  | empty => rfl
  | named name => rw [Session.context, Session.context, same.contexts]
  | current => exact (hushes_current same).symm
  | ofRequest name => rw [Session.context, Session.context, same.requests]

theorem hushes_inspect (same : Hushes crew tape s q) (request : Request) : s.inspect request = q.inspect request := by
  have finished : s.telemetry.isFinished = q.telemetry.isFinished := funext (Telemetry.aligned_finished same.hears.aligned)
  rw [Session.inspect, Session.inspect, finished]

end Sessions

theorem moves_hold {crew : List Decorator} {tape : Tape} {t u : Telemetry} (spans : List SpanContext)
    (rel : (hushing crew).rel tape t u) : (hushing crew).Moves tape t u (t.hold spans) (u.hold spans) := by
  have same : Telemetry.Aligned tape.bridged (t.hold spans) (u.hold spans) :=
    Telemetry.aligned_same rel.aligned (congrArg (fun bare : Telemetry => bare.hold spans) rel.aligned.bare) rfl rfl rfl
      fun _ member => member
  exact Pairing.moves_growing (Tape.hears_same rel same rfl rfl) (Telemetry.grows_same t _ rfl) rfl rfl

theorem tells_or {crew : List Decorator} {tape : Tape} {a? b? x? y? : Option (Result × Session)} (first : Option.Rel (Tells crew tape) a? b?)
    (second : Option.Rel (Tells crew tape) x? y?) : Option.Rel (Tells crew tape) (a?.or x?) (b?.or y?) := by
  cases first with
  | none => exact second
  | some tells => exact .some tells

section Steps

variable {crew : List Decorator} {tape : Tape} {s q : Session} (same : Hushes crew tape s q)

include same

theorem tells_checked {α : Type} (message : Except DraftError α) (step other : α → Result × Session)
    (tells : ∀ value, Tells crew tape (step value) (other value)) :
    Tells crew tape (s.checked message step) (q.checked message other) := by
  cases message with
  | ok value => exact tells value
  | error error => exact ⟨rfl, same⟩

theorem tells_on_request (name : String) (step other : Request → Telemetry → Request × Telemetry)
    (moves : ∀ request, (step request s.telemetry).1 = (other request q.telemetry).1 ∧
      (hushing crew).Moves tape s.telemetry q.telemetry (step request s.telemetry).2 (other request q.telemetry).2) :
    Tells crew tape (s.onRequest name step) (q.onRequest name other) := by
  unfold Session.onRequest
  rw [hushes_get same]
  cases s.requests.get? name with
  | none => exact ⟨rfl, same⟩
  | some request =>
      obtain ⟨sent, moved⟩ := moves request
      have bound := hushes_bind_request (hushes_moves same moved) name (step request s.telemetry).1
      dsimp only
      rw [← sent]
      exact ⟨congrArg Result.inspected (hushes_inspect bound _), bound⟩

theorem tells_with_request (name : String) (step other : Request → Telemetry → Result × Telemetry)
    (moves : ∀ request, (step request s.telemetry).1 = (other request q.telemetry).1 ∧
      (hushing crew).Moves tape s.telemetry q.telemetry (step request s.telemetry).2 (other request q.telemetry).2) :
    Tells crew tape (s.withRequest name step) (q.withRequest name other) := by
  unfold Session.withRequest
  rw [hushes_get same]
  cases s.requests.get? name with
  | none => exact ⟨rfl, same⟩
  | some request => exact ⟨(moves request).1, hushes_moves same (moves request).2⟩

theorem moves_act_on (request : Request) (actions : List SpanAction) :
    (Session.actOn request actions s.telemetry).1 = (Session.actOn request actions q.telemetry).1 ∧
      (hushing crew).Moves tape s.telemetry q.telemetry (Session.actOn request actions s.telemetry).2
        (Session.actOn request actions q.telemetry).2 := by
  unfold Session.actOn
  cases request.marks.wrapper? with
  | none => exact ⟨rfl, Pairing.moves_self same.hears⟩
  | some span =>
      have acted := Pairing.moves_act actions (hushes_rel same) (.inl (covers_span s.telemetry span))
      exact ⟨congrArg (Result.acted · span) (Telemetry.aligned_recording acted.rel.aligned span), acted⟩

theorem moves_finish_on (request : Request) :
    (Session.finish request s.telemetry).1 = (Session.finish request q.telemetry).1 ∧
      (hushing crew).Moves tape s.telemetry q.telemetry (Session.finish request s.telemetry).2
        (Session.finish request q.telemetry).2 := by
  unfold Session.finish
  cases request.marks.wrapper? with
  | none => exact ⟨rfl, Pairing.moves_self same.hears⟩
  | some span =>
      obtain ⟨closed, finished⟩ := Pairing.moves_finish (hushes_rel same) (covers_span s.telemetry span)
      exact ⟨congrArg Result.flag closed, finished⟩

theorem moves_run_local (request : Request) (level : LogLevel) (component : String) (code? : Option Nat)
    (eventLevel : LogLevel) (latency : String) :
    (Session.runLocal request level component code? eventLevel latency s.telemetry).1 =
        (Session.runLocal request level component code? eventLevel latency q.telemetry).1 ∧
      (hushing crew).Moves tape s.telemetry q.telemetry
        (Session.runLocal request level component code? eventLevel latency s.telemetry).2
        (Session.runLocal request level component code? eventLevel latency q.telemetry).2 := by
  obtain ⟨span, opened, localizes⟩ := Pairing.moves_open_for level component request (hushes_rel same)
    (covers_local_spans s.telemetry) fun _ => hushes_current same
  unfold Session.runLocal
  dsimp only
  rw [← span]
  have closed := Pairing.moves_local_close localizes opened.rel
  cases code?.map ReplyDraft.checkStatus with
  | none => exact ⟨rfl, Pairing.moves_trans opened closed⟩
  | some checked =>
      cases checked with
      | error error => exact ⟨rfl, Pairing.moves_trans opened closed⟩
      | ok status =>
          have enters := Pairing.moves_entering localizes opened.rel
          have answered := Pairing.moves_on_response eventLevel latency status enters.localizes enters.rel
          obtain ⟨left, _⟩ := Pairing.moves_leave enters answered (Pairing.covers_moves answered enters.localizes.covered)
          dsimp only
          rw [← enters.same] at left ⊢
          exact ⟨rfl, Pairing.moves_trans opened left⟩

theorem performs_on_request (action : Action) :
    Option.Rel (Tells crew tape) (s.performOnRequest action) (q.performOnRequest action) := by
  cases action with
  | request name draft => exact .some (tells_checked same _ _ _ fun request => ⟨rfl, hushes_bind_request same name _⟩)
  | clone name copy =>
      simp only [Session.performOnRequest, hushes_get same]
      cases s.requests.get? name with
      | none => exact .some ⟨rfl, same⟩
      | some request => exact .some ⟨rfl, hushes_bind_request same copy request⟩
  | inspect name => exact .some (tells_on_request same name _ _ fun request => ⟨rfl, Pairing.moves_self same.hears⟩)
  | isTraced name =>
      refine .some (tells_with_request same name _ _ fun request => ?_)
      obtain ⟨traced, moves⟩ := Pairing.moves_is_traced request (hushes_boundaries same) same.hears
      exact ⟨congrArg Result.flag traced, moves⟩
  | enter name =>
      simp only [Session.performOnRequest, hushes_get same]
      cases s.requests.get? name with
      | none => exact .some ⟨rfl, same⟩
      | some request =>
          obtain ⟨admission, next, moves, _⟩ := Pairing.moves_enter (hushes_boundaries same) same.hears (covers_requests _ request)
            fun _ _ => hushes_current same
          have bound := hushes_bind_request (hushes_moves same moves) name (s.tracing.boundary.enter request s.telemetry).2.1
          have inspected := hushes_inspect bound (s.tracing.boundary.enter request s.telemetry).2.1
          refine .some ⟨?_, ?_⟩
          · dsimp only
            rw [inspected, ← next, ← admission]
          · dsimp only
            rw [← next]
            exact bound
  | preHandle name handler coordinator =>
      refine .some (tells_on_request same name _ _ fun request => ?_)
      obtain ⟨next, moves, _⟩ := Pairing.moves_pre_handle handler (hushes_coordinators same coordinator) same.hears
        (covers_requests _ request) (covers_missing _ request)
      exact ⟨next, moves⟩
  | asyncStarted name handler coordinator =>
      refine .some (tells_on_request same name _ _ fun request => ?_)
      obtain ⟨next, moves, _⟩ := Pairing.moves_async_started handler (hushes_coordinators same coordinator) same.hears
        (covers_requests _ request) (covers_missing _ request)
      exact ⟨next, moves⟩
  | afterCompletion name handler coordinator status? fault? =>
      refine .some (tells_checked same _ _ _ fun checked? => tells_on_request same name _ _ fun request => ?_)
      obtain ⟨next, moves, _⟩ := Pairing.moves_after_completion handler (checked?.map Session.bare) fault?
        (hushes_coordinators same coordinator) same.hears (covers_requests _ request) (covers_missing _ request)
      exact ⟨next, moves⟩
  | complete name status =>
      refine .some (tells_checked same _ _ _ fun checked => tells_on_request same name _ _ fun request => ?_)
      exact ⟨rfl, Pairing.moves_complete _ (hushes_boundaries same) same.hears (covers_requests _ request)⟩
  | fail name fault =>
      refine .some (tells_on_request same name _ _ fun request => ?_)
      exact ⟨rfl, Pairing.moves_fail fault (hushes_boundaries same) same.hears (covers_requests _ request)⟩
  | cancel name =>
      refine .some (tells_on_request same name _ _ fun request => ?_)
      exact ⟨rfl, Pairing.moves_cancel s.tracing.boundary q.tracing.boundary same.hears (covers_requests _ request)⟩
  | finish name => exact .some (tells_with_request same name _ _ fun request => moves_finish_on same request)
  | act name actions => exact .some (tells_with_request same name _ _ fun request => moves_act_on same request actions)
  | localSpan name level component code? eventLevel unit nanoseconds =>
      exact .some (tells_with_request same name _ _ fun request => moves_run_local same request level component code? eventLevel _)
  | _ => exact .none

theorem performs_on_context (action : Action) :
    Option.Rel (Tells crew tape) (s.performOnContext action) (q.performOnContext action) := by
  have refs : q.context = s.context := funext (hushes_context same)
  have inst := hushes_instrumentation same
  cases action with
  | startSpan name title kind parent links =>
      obtain ⟨next, started, _⟩ := Pairing.moves_start title kind (s.context parent) [("span.kind", .text kind.tag)]
        (links.filterMap fun link => (s.context link).span?) (hushes_rel same)
      have bound := hushes_bind_context (hushes_moves same started) name (.of (s.telemetry.nextContext (s.context parent)))
      simp only [Session.performOnContext, refs]
      refine .some ⟨congrArg (fun span => Result.spanContext (some span)) next, ?_⟩
      have span : (q.tracing.instrumentation.startSpan title kind (s.context parent)
          (links.filterMap fun link => (s.context link).span?) q.telemetry).1 = s.telemetry.nextContext (s.context parent) :=
        next.symm
      dsimp only
      rw [span]
      exact bound
  | inject context headers =>
      refine .some (tells_checked same _ _ _ fun headers => ⟨?_, same⟩)
      rw [refs, inst]
      exact congrArg Result.headers (by rw [Instrumentation.inject, Instrumentation.inject,
        Pairing.propagator_same _ (hushes_rel same)])
  | extract name headers =>
      refine .some (tells_checked same _ _ _ fun headers => ?_)
      have extracted := Pairing.extract_same s.tracing.instrumentation headers (hushes_rel same) (hushes_current same)
      dsimp only
      rw [inst, ← extracted]
      exact ⟨rfl, hushes_bind_context same name _⟩
  | endSpan context =>
      simp only [Session.performOnContext, refs]
      cases (s.context context).span? with
      | none => exact .some ⟨rfl, same⟩
      | some span =>
          exact .some ⟨rfl, hushes_moves same (Pairing.moves_end (hushes_rel same) (.inl (covers_span s.telemetry span)))⟩
  | attach context =>
      simp only [Session.performOnContext, refs]
      exact .some ⟨rfl, hushes_same same ((hushing crew).attach (s.context context) (hushes_rel same)) rfl⟩
  | detach =>
      have after := hushes_same same ((hushing crew).detach (hushes_rel same)) rfl
      exact .some ⟨congrArg (fun context : Context => Result.spanName context.span?) (hushes_current after), after⟩
  | describe => exact .some ⟨congrArg (fun inst : Instrumentation => Result.text inst.debug) inst.symm, same⟩
  | describeClient => exact .some ⟨congrArg Result.text (hushes_debug same), same⟩
  | _ => exact .none

theorem tells_work {work : WorkDraft} {step other : Work → Result × Session}
    (tells : ∀ a b, (hushing crew).Works [] a b → Tells crew tape (step a) (other b)) :
    Tells crew tape (s.checked (s.work work) step) (q.checked (q.work work) other) := by
  unfold Session.work
  cases Session.script work with
  | error error => exact ⟨rfl, same⟩
  | ok script => exact tells _ _ (Pairing.works_script (hushes_interceptors same) script fun _ _ request _ => covers_requests _ request)

theorem tells_execute (request : Request) (reply? : Option Outcome) :
    Tells crew tape (s.execute request reply?) (q.execute request reply?) := by
  obtain ⟨outcome, moves⟩ := Pairing.moves_execute (hushes_interceptors same) (Pairing.replies_noted reply?)
    (hushes_rel same) Pairing.covers_none (covers_requests _ request) (hushes_current same)
  have after := hushes_moves same moves
  unfold Session.execute
  dsimp only
  rw [← outcome]
  split
  · exact ⟨rfl, after⟩
  · exact ⟨rfl, after⟩

theorem performs_on_call (action : Action) :
    Option.Rel (Tells crew tape) (s.performOnCall action) (q.performOnCall action) := by
  cases action with
  | startCall name draft =>
      refine .some (tells_checked same _ _ _ fun request => ?_)
      obtain ⟨sent, _, calls, moves, _⟩ := Pairing.moves_call_start request (hushes_interceptors same) (hushes_rel same)
        fun _ => hushes_current same
      have after := hushes_moves same moves
      have context := Pairing.calls_context calls (hushes_current after)
      have traced := Pairing.calls_traced calls
      refine ⟨?_, hushes_bind_call after name calls⟩
      dsimp only
      rw [sent, traced, context]
  | completeCall name reply =>
      refine .some (tells_checked same _ _ _ fun outcome => ?_)
      have known := Bindings.alike_get same.calls name
      generalize s.calls.get? name = call? at known
      generalize q.calls.get? name = other? at known
      cases known with
      | none => exact ⟨rfl, same⟩
      | @some a b calls =>
          obtain ⟨replied, moves⟩ := Pairing.moves_call_complete calls outcome (hushes_rel same) (covers_call _ _)
          exact ⟨congrArg Result.replied replied,
            { hushes_moves same moves with calls := Bindings.alike_erase same.calls name }⟩
  | dropCall name =>
      have known := Bindings.alike_get same.calls name
      simp only [Session.performOnCall]
      generalize s.calls.get? name = call? at known
      generalize q.calls.get? name = other? at known
      cases known with
      | none => exact .some ⟨rfl, same⟩
      | @some a b calls =>
          have moves := Pairing.moves_call_drop calls (hushes_rel same) (covers_call _ _)
          exact .some ⟨rfl, { hushes_moves same moves with calls := Bindings.alike_erase same.calls name }⟩
  | instrument name task draft =>
      refine .some (tells_work same fun a b works => ?_)
      have known := Bindings.alike_get same.calls name
      generalize s.calls.get? name = call? at known
      generalize q.calls.get? name = other? at known
      cases known with
      | none => exact ⟨rfl, same⟩
      | @some x y calls =>
          have erased : Hushes crew tape { s with calls := s.calls.erase name } { q with calls := q.calls.erase name } :=
            { same with calls := Bindings.alike_erase same.calls name }
          refine ⟨rfl, hushes_bind_task erased task ⟨x.stakes, covers_call _ _, ?_⟩⟩
          exact Pairing.tasks_instrument calls (fun _ member => member) (.leaf a b 0 (Pairing.works_more works (by simp)))
  | execute draft reply panics =>
      refine .some (tells_checked same _ _ _ fun request => tells_checked same _ _ _ fun outcome => ?_)
      exact tells_execute same request _
  | exchange name draft work panics =>
      refine .some (tells_checked same _ _ _ fun request => tells_work same fun a b works => ⟨rfl, ?_⟩)
      refine hushes_bind_task same name ⟨request.stakes, fun stake member => ?_, ?_⟩
      · obtain ⟨span, _, rfl⟩ := List.mem_map.mp member
        trivial
      · exact .lazyCall _ _ request _ _ (hushes_interceptors same) (fun span => List.mem_map_of_mem) (Pairing.sends_work works panics)
  | _ => exact .none

theorem tells_poll (name : String) : Tells crew tape (s.poll name) (q.poll name) := by
  have known := Bindings.alike_get same.tasks name
  unfold Session.poll
  generalize s.tasks.get? name = task? at known
  generalize q.tasks.get? name = other? at known
  cases known with
  | none => exact ⟨rfl, same⟩
  | @some a b owned =>
      obtain ⟨mine, covered, tasks⟩ := owned
      obtain ⟨stakes, _, results, moves, kept⟩ := Pairing.moves_poll tasks (hushes_rel same) covered fun _ => hushes_current same
      have after : Hushes crew tape { s with telemetry := (a.poll s.telemetry).2, tasks := s.tasks.erase name }
          { q with telemetry := (b.poll q.telemetry).2, tasks := q.tasks.erase name } :=
        { hushes_moves same moves with tasks := Bindings.alike_erase (hushes_moves same moves).tasks name }
      rcases polled : a.poll s.telemetry with ⟨result, later⟩
      rcases polled' : b.poll q.telemetry with ⟨result', later'⟩
      rw [polled, polled'] at results after
      rw [polled] at kept
      dsimp only
      rw [polled, polled']
      cases results with
      | pending a b rest => exact ⟨rfl, hushes_bind_task after name ⟨stakes, kept, rest⟩⟩
      | ready outcome => exact ⟨rfl, after⟩
      | panicked => exact ⟨rfl, after⟩

theorem tells_signal (name : String) (signal : Signal) :
    Tells crew tape (s.signalGuard name signal) (q.signalGuard name signal) := by
  have known := Bindings.alike_get same.guards name
  unfold Session.signalGuard
  generalize s.guards.get? name = guard? at known
  generalize q.guards.get? name = other? at known
  cases known with
  | none => exact ⟨rfl, same⟩
  | @some g h guards =>
      obtain ⟨first, after, moves⟩ := Pairing.moves_signal signal guards (hushes_rel same) Pairing.covers_none
      exact ⟨congrArg Result.flag first,
        { hushes_moves same moves with guards := Bindings.alike_put same.guards name after }⟩

theorem performs_on_task (action : Action) :
    Option.Rel (Tells crew tape) (s.performOnTask action) (q.performOnTask action) := by
  have refs : q.context = s.context := funext (hushes_context same)
  cases action with
  | propagate name context draft =>
      refine .some (tells_work same fun a b works => ⟨rfl, ?_⟩)
      rw [refs]
      refine hushes_bind_task same name ⟨[], Pairing.covers_none, ?_⟩
      exact .guarded _ _ false _ _ (Pairing.guards_recorder _ name) (.leaf a b 0 works)
  | scopeTask name context task =>
      have known := Bindings.alike_get same.tasks task
      simp only [Session.performOnTask, refs]
      generalize s.tasks.get? task = task? at known
      generalize q.tasks.get? task = other? at known
      cases known with
      | none => exact .some ⟨rfl, same⟩
      | @some a b owned =>
          obtain ⟨mine, covered, tasks⟩ := owned
          have erased : Hushes crew tape { s with tasks := s.tasks.erase task } { q with tasks := q.tasks.erase task } :=
            { same with tasks := Bindings.alike_erase same.tasks task }
          exact .some ⟨rfl, hushes_bind_task erased name ⟨mine, covered, .inside _ a b tasks⟩⟩
  | scopeWork name context draft =>
      refine .some (tells_work same fun a b works => ⟨rfl, ?_⟩)
      rw [refs]
      exact hushes_bind_task same name ⟨[], Pairing.covers_none, .inside _ _ _ (.leaf a b 0 works)⟩
  | poll name => exact .some (tells_poll same name)
  | drop name =>
      have known := Bindings.alike_get same.tasks name
      simp only [Session.performOnTask]
      generalize s.tasks.get? name = task? at known
      generalize q.tasks.get? name = other? at known
      cases known with
      | none => exact .some ⟨rfl, same⟩
      | @some a b owned =>
          obtain ⟨mine, covered, tasks⟩ := owned
          have after := hushes_moves same (Pairing.moves_drop tasks (hushes_rel same) covered)
          exact .some ⟨rfl, { after with tasks := Bindings.alike_erase after.tasks name }⟩
  | newGuard name context =>
      refine .some ⟨rfl, ?_⟩
      rw [refs]
      exact hushes_bind_guard same name (Pairing.guards_recorder _ name)
  | completeGuard name reply => exact .some (tells_checked same _ _ _ fun outcome => tells_signal same name _)
  | cancelGuard name => exact .some (tells_signal same name _)
  | inspectGuard name =>
      have known := Bindings.alike_get same.guards name
      simp only [Session.performOnTask]
      generalize s.guards.get? name = guard? at known
      generalize q.guards.get? name = other? at known
      cases known with
      | none => exact .some ⟨rfl, same⟩
      | @some g h guards =>
          refine .some ⟨?_, same⟩
          dsimp only
          rw [Pairing.guards_armed guards, Pairing.guards_context guards]
  | dropGuard name =>
      have known := Bindings.alike_get same.guards name
      simp only [Session.performOnTask]
      generalize s.guards.get? name = guard? at known
      generalize q.guards.get? name = other? at known
      cases known with
      | none => exact .some ⟨rfl, same⟩
      | @some g h guards =>
          have moves := Pairing.moves_guard_drop guards (hushes_rel same) Pairing.covers_none
          exact .some ⟨rfl, { hushes_moves same moves with guards := Bindings.alike_erase same.guards name }⟩
  | _ => exact .none

theorem services_layered (stack : List LayerChoice) {x y : Service} (below : (hushing crew).Services [.localSpans] x y) :
    (hushing crew).Services [.localSpans] (stack.foldr s.layer x) (stack.foldr q.layer y) := by
  induction stack with
  | nil => exact below
  | cons choice rest ih =>
      cases choice with
      | server => exact .traceServer _ _ _ _ (hushes_boundaries same) ih
      | client => exact .traceClient _ _ _ _ (hushes_interceptors same) ih
      | localSpan => exact .traceLocally _ _ List.mem_cons_self ih
      | handler handler coordinator => exact .traceHandler _ _ handler _ _ (hushes_coordinators same coordinator) ih

theorem hushes_make_service (name : String) (stack : List LayerChoice) (keep? : Option String) (callPanics : Bool)
    (readiness : List Readiness) (script : WorkScript) :
    Hushes crew tape (s.makeService name stack keep? callPanics readiness script)
      (q.makeService name stack keep? callPanics readiness script) := by
  have inner : (hushing crew).Services [.localSpans] (.innermost false (ServiceScript.serve ⟨script, keep?, callPanics⟩ _))
      (.innermost false (ServiceScript.serve ⟨script, keep?, callPanics⟩ _)) :=
    .innermost false _ _ (Pairing.serves_script (hushes_interceptors same) _ (fun _ _ request _ => covers_requests _ request)
      fun _ _ _ => moves_hold)
  exact { same with
    services := Bindings.alike_put same.services name
      ⟨congrArg List.length same.queues.symm, services_layered same stack inner⟩
    queues := congrArg (· ++ [readiness]) same.queues }

theorem tells_ready (name : String) : Tells crew tape (s.pollReady name) (q.pollReady name) := by
  have known := Bindings.alike_get same.services name
  unfold Session.pollReady
  generalize s.services.get? name = entry? at known
  generalize q.services.get? name = other? at known
  cases known with
  | none => exact ⟨rfl, same⟩
  | @some x y instances =>
      obtain ⟨service, queue⟩ := x
      obtain ⟨service', queue'⟩ := y
      obtain ⟨rfl, services⟩ := instances
      dsimp only
      rw [same.queues]
      refine ⟨rfl, { same with
        services := Bindings.alike_put same.services name ⟨rfl, ?_⟩
        queues := rfl }⟩
      split
      · exact Pairing.services_ready services
      · exact services

theorem tells_call (service name : String) (request : Request) :
    Tells crew tape (s.callService service name request) (q.callService service name request) := by
  have known := Bindings.alike_get same.services service
  unfold Session.callService
  generalize s.services.get? service = entry? at known
  generalize q.services.get? service = other? at known
  cases known with
  | none => exact ⟨rfl, same⟩
  | @some x y instances =>
      obtain ⟨service_, queue⟩ := x
      obtain ⟨service', queue'⟩ := y
      obtain ⟨rfl, services⟩ := instances
      obtain ⟨stakes, tasks, moves, kept⟩ := Pairing.moves_dispatch services request (hushes_rel same)
        (fun stake member => by obtain rfl := List.mem_singleton.mp member; trivial) (covers_requests _ request)
        (fun _ => covers_missing _ request) fun _ => hushes_current same
      have moved := hushes_moves same moves
      have called : Instances crew ⟨service_.afterCall, queue⟩ ⟨service'.afterCall, queue⟩ :=
        ⟨rfl, Pairing.services_called services⟩
      have after : Hushes crew tape
          { s with
            telemetry := (service_.dispatch request s.telemetry).2
            services := s.services.put service ⟨service_.afterCall, queue⟩ }
          { q with
            telemetry := (service'.dispatch request q.telemetry).2
            services := q.services.put service ⟨service'.afterCall, queue⟩ } :=
        { moved with services := Bindings.alike_put same.services service called }
      simp only [Service.call]
      generalize (service_.dispatch request s.telemetry).1 = task? at tasks
      generalize (service'.dispatch request q.telemetry).1 = other? at tasks
      cases tasks with
      | none => exact ⟨rfl, after⟩
      | some alike => exact ⟨rfl, hushes_bind_task after name ⟨stakes, kept, alike⟩⟩

theorem performs_on_service (action : Action) :
    Tells crew tape (s.performOnService action) (q.performOnService action) := by
  cases action with
  | service name stack inner =>
      exact tells_checked same _ _ _ fun script => ⟨rfl, hushes_make_service same name stack _ _ _ script⟩
  | cloneService name copy =>
      have known := Bindings.alike_get same.services name
      simp only [Session.performOnService]
      generalize s.services.get? name = entry? at known
      generalize q.services.get? name = other? at known
      cases known with
      | none => exact ⟨rfl, same⟩
      | @some x y instances =>
          obtain ⟨queue, services⟩ := instances
          have cloned : Instances crew ⟨x.service.clone, x.queue⟩ ⟨y.service.clone, y.queue⟩ :=
            ⟨queue, Pairing.services_clone services⟩
          exact ⟨rfl, { same with services := Bindings.alike_put same.services copy cloned }⟩
  | ready name => exact tells_ready same name
  | call service name source =>
      cases source with
      | draft draft => exact tells_checked same _ _ _ fun request => tells_call same service name request
      | named request =>
          simp only [Session.performOnService, hushes_get same]
          cases s.requests.get? request with
          | none => exact ⟨rfl, same⟩
          | some request => exact tells_call same service name request
  | _ => exact ⟨rfl, same⟩

theorem tells_perform (action : Action) : Tells crew tape (s.perform action) (q.perform action) := by
  have listed := tells_or (tells_or (tells_or (performs_on_request same action) (performs_on_context same action))
    (performs_on_call same action)) (performs_on_task same action)
  unfold Session.perform
  generalize (((s.performOnRequest action).or _).or _).or _ = first? at listed ⊢
  generalize (((q.performOnRequest action).or _).or _).or _ = second? at listed ⊢
  cases listed with
  | none => exact performs_on_service same action
  | some tells => exact tells

end Steps

end RequestSpans.Scenario
