import RequestSpans.Proofs.Comparison.Task
import RequestSpans.Service

set_option autoImplicit false

namespace RequestSpans

def Service.handlesFirst : Service → Bool
  | .innermost _ _ => false
  | .traceServer _ _ => false
  | .traceHandler _ _ _ => true
  | .traceClient _ below => below.handlesFirst
  | .traceLocally below => below.handlesFirst

-- Whether a call opens spans below the ambient context, or runs code in it. Of a
-- request with a context of its own, handlers and local spans need no other.
def Service.exposes : Service → Request → Bool
  | .innermost _ _, _ => true
  | .traceServer _ below, request => !request.entered || below.exposes request
  | .traceHandler _ _ _, request => request.marks.active?.isNone
  | .traceClient _ _, _ => true
  | .traceLocally below, request => request.marks.active?.isNone || below.exposes request

def Request.stakes (request : Request) : List Stake := request.marks.spans.map Stake.span

def Request.handlerStakes (request : Request) : List Stake := if request.entered then request.stakes else .missing :: request.stakes

namespace Pairing

variable {P : Pairing}

def Serves (P : Pairing) (mine : List Stake) (a b : Serve) : Prop :=
  ∀ ⦃w t u⦄ (ready : Bool) (request : Request), P.rel w t u → P.Covers w t mine → P.Secures w t request →
    t.current = u.current → ∃ stakes, P.Hands w t u (a ready request t) (b ready request u) stakes

inductive Services (P : Pairing) (mine : List Stake) : Service → Service → Prop
  | innermost (ready : Bool) (a b : Serve) (serves : P.Serves mine a b) : Services P mine (.innermost ready a) (.innermost ready b)
  | traceServer (a b : ServerBoundary) (x y : Service) (alike : P.boundaries a b) (below : Services P mine x y) :
      Services P mine (.traceServer a x) (.traceServer b y)
  | traceHandler (a b : HandlerCoordinator) (handler : Handler) (x y : Service) (alike : P.coordinators a b)
      (below : Services P mine x y) : Services P mine (.traceHandler a handler x) (.traceHandler b handler y)
  | traceClient (a b : ClientInterceptor) (x y : Service) (alike : P.interceptors a b) (below : Services P mine x y) :
      Services P mine (.traceClient a x) (.traceClient b y)
  | traceLocally (x y : Service) (allowed : .localSpans ∈ mine) (below : Services P mine x y) :
      Services P mine (.traceLocally x) (.traceLocally y)

structure Dispatches (P : Pairing) (w : P.World) (t u : Telemetry) (a b : Option Task × Telemetry) (stakes : List Stake) :
    Prop where
  tasks : Option.Rel (P.Tasks stakes) a.1 b.1
  moves : P.Moves w t u a.2 b.2
  covered : P.Covers w a.2 stakes

section Building

variable {mine : List Stake}

theorem services_clone {a b : Service} (alike : P.Services mine a b) : P.Services mine a.clone b.clone := by
  induction alike with
  | innermost ready a b serves => exact .innermost false a b serves
  | traceServer a b x y alike below ih => exact .traceServer a b _ _ alike ih
  | traceHandler a b handler x y alike below ih => exact .traceHandler a b handler _ _ alike ih
  | traceClient a b x y alike below ih => exact .traceClient a b _ _ alike ih
  | traceLocally x y allowed below ih => exact .traceLocally _ _ allowed ih

theorem services_ready {a b : Service} (alike : P.Services mine a b) : P.Services mine a.makeReady b.makeReady := by
  induction alike with
  | innermost ready a b serves => exact .innermost true a b serves
  | traceServer a b x y alike below ih => exact .traceServer a b _ _ alike ih
  | traceHandler a b handler x y alike below ih => exact .traceHandler a b handler _ _ alike ih
  | traceClient a b x y alike below ih => exact .traceClient a b _ _ alike ih
  | traceLocally x y allowed below ih => exact .traceLocally _ _ allowed ih

theorem services_called {a b : Service} (alike : P.Services mine a b) : P.Services mine a.afterCall b.afterCall := by
  induction alike with
  | innermost ready a b serves => exact .innermost false a b serves
  | traceServer a b x y alike below ih => exact .traceServer a b _ _ alike (services_clone below)
  | traceHandler a b handler x y alike below ih => exact .traceHandler a b handler _ _ alike (services_clone below)
  | traceClient a b x y alike below ih => exact .traceClient a b _ _ alike ih
  | traceLocally x y allowed below ih => exact .traceLocally _ _ allowed ih

theorem terminals_server {a b : ServerBoundary} {request : Request} (context : Context) (alike : P.boundaries a b)
    (held : ∀ span ∈ request.marks.spans, .span span ∈ mine) :
    P.Terminals mine context (Service.serverTerminal a request) (Service.serverTerminal b request) := by
  refine ⟨rfl, fun _ _ _ signal rel covered here there => ?_⟩
  have secure := fun span member => covered (.span span) (held span member)
  cases signal with
  | success response => exact moves_complete response alike rel secure
  | failure fault => exact moves_fail fault alike rel secure
  | cancelled => exact moves_cancel a b rel secure

theorem terminals_handler {a b : HandlerCoordinator} {request : Request} (context : Context) (handler : Handler)
    (alike : P.coordinators a b) (held : ∀ span ∈ request.marks.spans, .span span ∈ mine)
    (admitted : request.entered = false → .missing ∈ mine) :
    P.Terminals mine context (Service.handlerTerminal a handler request) (Service.handlerTerminal b handler request) := by
  refine ⟨rfl, fun _ _ _ signal rel covered here there => ?_⟩
  have secure := fun span member => covered (.span span) (held span member)
  have admits := fun unentered => covered .missing (admitted unentered)
  cases signal with
  | success response => exact (moves_after_completion handler (some response) none alike rel secure admits).2.1
  | failure fault => exact (moves_after_completion handler none (some fault) alike rel secure admits).2.1
  | cancelled => exact (moves_after_completion handler none none alike rel secure admits).2.1

end Building

section Steps

variable {w : P.World} {t u : Telemetry} {mine stakes : List Stake}

theorem dispatches_more {a b : Option Task × Telemetry} (dispatches : P.Dispatches w t u a b stakes)
    (covered : P.Covers w a.2 mine) : P.Dispatches w t u a b (mine ++ stakes) := by
  refine ⟨?_, dispatches.moves, fun stake member => (List.mem_append.mp member).elim (covered stake) (dispatches.covered stake)⟩
  obtain ⟨task?, later⟩ := a
  obtain ⟨task?', later'⟩ := b
  obtain ⟨tasks, _, _⟩ := dispatches
  cases tasks with
  | none => exact .none
  | some alike => exact .some (tasks_more alike (List.subset_append_right mine stakes))

theorem secures_stakes {request : Request} (secure : P.Secures w t request) : P.Covers w t request.stakes := by
  intro stake member
  obtain ⟨span, listed, rfl⟩ := List.mem_map.mp member
  exact secure span listed

theorem admits_stakes {request : Request} (secure : P.Secures w t request) (admits : P.Admits w t request) :
    P.Covers w t request.handlerStakes := by
  unfold Request.handlerStakes
  split
  · exact secures_stakes secure
  · rename_i unentered
    intro stake member
    rcases List.mem_cons.mp member with rfl | listed
    · exact admits (eq_false_of_ne_true unentered)
    · exact secures_stakes secure stake listed

theorem handler_stakes_span {request : Request} {span : SpanContext} (member : span ∈ request.marks.spans) :
    Stake.span span ∈ request.handlerStakes := by
  have listed : Stake.span span ∈ request.stakes := List.mem_map_of_mem member
  unfold Request.handlerStakes
  split
  · exact listed
  · exact List.mem_cons_of_mem _ listed

theorem handler_stakes_missing {request : Request} (unentered : request.entered = false) :
    Stake.missing ∈ request.handlerStakes := by
  simp [Request.handlerStakes, unentered]

theorem dispatches_within {a b : Telemetry → Option Task × Telemetry} (context : Context)
    (dispatches : P.Dispatches w (t.attach context) (u.attach context) (a (t.attach context)) (b (u.attach context)) stakes) :
    P.Dispatches w t u (t.within context a) (u.within context b) stakes := by
  refine ⟨dispatches.tasks, moves_within context a b dispatches.moves, fun stake member => ?_⟩
  exact P.lasts (Telemetry.grows_same (a (t.attach context)).2 _ rfl) (dispatches.covered stake member)

theorem dispatches_trans {between between' : Telemetry} {a b : Option Task × Telemetry} (early : P.Moves w t u between between')
    (dispatches : P.Dispatches w between between' a b stakes) : P.Dispatches w t u a b stakes :=
  ⟨dispatches.tasks, moves_trans early dispatches.moves, dispatches.covered⟩

theorem dispatches_guard {a b : Option Task × Telemetry} {x y : Terminal} (context : Context) (opened : List SpanContext)
    (terminals : P.Terminals stakes context x y) (held : ∀ span ∈ opened, .span span ∈ stakes)
    (dispatches : P.Dispatches w t u a b stakes) :
    P.Dispatches w t u (Service.guardTask context x opened a.1 a.2) (Service.guardTask context y opened b.1 b.2) stakes := by
  obtain ⟨task?, later⟩ := a
  obtain ⟨task?', later'⟩ := b
  obtain ⟨tasks, moves, covered⟩ := dispatches
  cases tasks with
  | none =>
      have released := moves_releases opened moves.rel fun span member => covered _ (held span member)
      exact ⟨.none, moves_trans moves released, covers_moves released covered⟩
  | some alike => exact ⟨.some (.guarded _ _ false _ _ (.armed context x y terminals) alike), moves, covered⟩

def Alike (P : Pairing) (w : P.World) (mine : List Stake) (below other : Request → Telemetry → Option Task × Telemetry)
    (admitted : Bool) (exposes : Request → Bool) : Prop :=
  ∀ ⦃t u⦄ (request : Request), P.rel w t u → P.Covers w t mine → P.Secures w t request →
    (admitted = true → P.Admits w t request) → (exposes request = true → t.current = u.current) →
    ∃ stakes, P.Dispatches w t u (below request t) (other request u) stakes

theorem server_entered (a : ServerBoundary) (request : Request) (call : Request → Telemetry → Option Task × Telemetry)
    (t : Telemetry) :
    Service.callServer a request call t = match (a.enter request t).1 with
      | .started span =>
          let called := (a.enter request t).2.2.within (.of span) (call (a.enter request t).2.1)
          Service.guardTask (.of span) (Service.serverTerminal a (a.enter request t).2.1) [span] called.1 called.2
      | _ => call (a.enter request t).2.1 (a.enter request t).2.2 := by
  rw [Service.callServer]
  rcases a.enter request t with ⟨_ | span | span, next, later⟩ <;> rfl

theorem handler_prepared (a : HandlerCoordinator) (handler : Handler) (request : Request)
    (call : Request → Telemetry → Option Task × Telemetry) (t : Telemetry) :
    Service.callHandler a handler request call t =
      let prepared := (a.preHandle request handler t).1
      let context := prepared.marks.active?.getD (a.preHandle request handler t).2.current
      let called := (a.preHandle request handler t).2.within context (call prepared)
      Service.guardTask context (Service.handlerTerminal a handler prepared)
        (prepared.marks.spans.filter fun span => !request.marks.spans.contains span) called.1 called.2 := by
  rw [Service.callHandler]

theorem dispatches_work {a b : Option Work × Telemetry} (hands : P.Hands w t u a b stakes) :
    P.Dispatches w t u (a.1.map Task.ofWork, a.2) (b.1.map Task.ofWork, b.2) stakes := by
  obtain ⟨work?, later⟩ := a
  obtain ⟨work?', later'⟩ := b
  obtain ⟨works, moves, covered⟩ := hands
  cases works with
  | none => exact ⟨.none, moves, covered⟩
  | some alike => exact ⟨.some (.leaf _ _ 0 alike), moves, covered⟩

def instrumented (call : ClientCall) (called : Option Task × Telemetry) : Option Task × Telemetry :=
  match called.1 with
  | some task => (some (call.instrument task), called.2)
  | none => (none, call.drop called.2)

theorem client_started (a : ClientInterceptor) (request : Request) (call : Request → Telemetry → Option Task × Telemetry)
    (t : Telemetry) :
    Service.callClient a request call t = instrumented (a.start request t).2.1
      ((a.start request t).2.2.within ((a.start request t).2.1.context (a.start request t).2.2) (call (a.start request t).1)) := by
  rw [Service.callClient]
  rcases a.start request t with ⟨sent, outbound, opened⟩
  dsimp only
  rcases opened.within (outbound.context opened) (call sent) with ⟨none_ | task, later⟩ <;> rfl

theorem dispatches_instrumented {a b : ClientCall} {x y : Option Task × Telemetry} (calls : P.Calls a b)
    (held : a.stakes ⊆ stakes) (dispatches : P.Dispatches w t u x y stakes) :
    P.Dispatches w t u (instrumented a x) (instrumented b y) stakes := by
  obtain ⟨task?, later⟩ := x
  obtain ⟨task?', later'⟩ := y
  obtain ⟨tasks, moves, covered⟩ := dispatches
  cases tasks with
  | none =>
      have dropped := moves_call_drop calls moves.rel fun stake member => covered stake (held member)
      exact ⟨.none, moves_trans moves dropped, covers_moves dropped covered⟩
  | some alike => exact ⟨.some (tasks_instrument calls held alike), moves, covered⟩

def localized (span : LocalSpan) (called : Option Task × Telemetry) : Option Task × Telemetry :=
  match called.1 with
  | some task => (some (.localized span task), span.exit called.2)
  | none => (none, span.close (span.exit called.2))

theorem local_entered (request : Request) (call : Request → Telemetry → Option Task × Telemetry) (t : Telemetry) :
    Service.callLocalized request call t =
      let opened := LocalSpan.openFor .debug "http-server" request t
      localized (opened.1.enter opened.2).1 (call request (opened.1.enter opened.2).2) := by
  rw [Service.callLocalized]
  rcases LocalSpan.openFor .debug "http-server" request t with ⟨span, opened⟩
  dsimp only
  rcases span.enter opened with ⟨tracing, entered⟩
  rcases call request entered with ⟨none_ | task, later⟩ <;> rfl

theorem dispatches_localized {span : LocalSpan} {x y : Option Task × Telemetry} (enters : P.Enters w t u span)
    (held : (span.enter t).1.stakes ⊆ stakes) (dispatches : P.Dispatches w (span.enter t).2 (span.enter u).2 x y stakes) :
    P.Dispatches w t u (localized (span.enter t).1 x) (localized (span.enter u).1 y) stakes := by
  obtain ⟨task?, later⟩ := x
  obtain ⟨task?', later'⟩ := y
  obtain ⟨tasks, moves, covered⟩ := dispatches
  cases tasks with
  | none =>
      obtain ⟨closed, kept⟩ := moves_leave enters moves covered
      exact ⟨.none, closed, kept⟩
  | some alike =>
      have left := enters.leaves later later' moves
      rw [← enters.same] at left ⊢
      exact ⟨.some (.localized _ _ _ enters.localizes.headed held alike), left, covers_exit (span.enter t).1 covered⟩

section Layers

variable {request : Request} {below other : Request → Telemetry → Option Task × Telemetry} {admitted : Bool}
  {exposes : Request → Bool} (rel : P.rel w t u) (covered : P.Covers w t mine) (secure : P.Secures w t request)
  (alike : P.Alike w mine below other admitted exposes)

include rel covered secure alike

theorem dispatches_server {a b : ServerBoundary} (boundaries : P.boundaries a b)
    (fresh : request.entered = false → t.current = u.current) (here : exposes request = true → t.current = u.current) :
    ∃ stakes, P.Dispatches w t u (Service.callServer a request below t) (Service.callServer b request other u) stakes := by
  obtain ⟨admission, travels, moves, secured, entered⟩ := moves_enter boundaries rel secure fun unentered _ => fresh unentered
  have onward : exposes (a.enter request t).2.1 = true → (a.enter request t).2.2.current = (b.enter request u).2.2.current := by
    intro exposed
    refine moves_current moves ?_
    cases known : request.entered with
    | false => exact fresh known
    | true => exact here (enter_entered a request t known ▸ exposed)
  have admits : admitted = true → P.Admits w (a.enter request t).2.2 (a.enter request t).2.1 := by
    intro _ unentered
    rw [entered] at unentered
    contradiction
  have passed : ∃ stakes, P.Dispatches w t u (below (a.enter request t).2.1 (a.enter request t).2.2)
      (other (a.enter request t).2.1 (b.enter request u).2.2) stakes := by
    obtain ⟨stakes, dispatches⟩ := alike (a.enter request t).2.1 moves.rel (covers_moves moves covered) secured admits onward
    exact ⟨stakes, dispatches_trans moves dispatches⟩
  rw [server_entered, server_entered, ← admission, ← travels]
  cases started : (a.enter request t).1 with
  | started span =>
      obtain ⟨stakes, dispatches⟩ := alike (a.enter request t).2.1 (P.attach (.of span) moves.rel)
        (covers_attach (.of span) (covers_moves moves covered))
        (fun other member => (moves_attached (.of span) moves.rel (secured other member)).2)
        (fun needed => fun unentered => (moves_attached (.of span) moves.rel (admits needed unentered)).2)
        fun _ => Telemetry.current_attach _ _ _
      have marked := entered_marked a request t span started
      have holds := covers_moves (moves_within (.of span) _ _ dispatches.moves) (secures_stakes secured)
      have called := dispatches_more (dispatches_trans moves (dispatches_within (.of span) dispatches)) holds
      have held : ∀ other ∈ (a.enter request t).2.1.marks.spans,
          Stake.span other ∈ (a.enter request t).2.1.stakes ++ stakes :=
        fun other member => List.mem_append_left _ (List.mem_map_of_mem member)
      have terminals := terminals_server (.of span) boundaries held
      refine ⟨_, dispatches_guard (.of span) [span] terminals ?_ called⟩
      intro other member
      obtain rfl := List.mem_singleton.mp member
      exact held other (by simp [Marks.spans, marked])
  | skipped => exact passed
  | redispatch span => exact passed

theorem dispatches_handler {a b : HandlerCoordinator} (handler : Handler) (coordinators : P.coordinators a b)
    (admits : P.Admits w t request) (here : request.marks.active? = none → t.current = u.current) :
    ∃ stakes, P.Dispatches w t u (Service.callHandler a handler request below t)
      (Service.callHandler b handler request other u) stakes := by
  obtain ⟨travels, moves, secured, entered⟩ := moves_pre_handle handler coordinators rel secure admits
  have same : ((a.preHandle request handler t).1.marks.active?.getD (a.preHandle request handler t).2.current) =
      (a.preHandle request handler t).1.marks.active?.getD (b.preHandle request handler u).2.current := by
    cases active : (a.preHandle request handler t).1.marks.active? with
    | none => exact moves_current moves (here (pre_handle_inactive handler active))
    | some context => rfl
  have admitted_ : P.Admits w (a.preHandle request handler t).2 (a.preHandle request handler t).1 :=
    fun unentered => moves.keeps _ (admits (entered ▸ unentered))
  rw [handler_prepared, handler_prepared, ← travels]
  dsimp only
  rw [← same]
  generalize (a.preHandle request handler t).1.marks.active?.getD (a.preHandle request handler t).2.current = context
  obtain ⟨stakes, dispatches⟩ := alike (a.preHandle request handler t).1 (P.attach context moves.rel)
    (covers_attach context (covers_moves moves covered))
    (fun other member => (moves_attached context moves.rel (secured other member)).2)
    (fun _ => fun unentered => (moves_attached context moves.rel (admitted_ unentered)).2)
    fun _ => Telemetry.current_attach _ _ _
  have holds := covers_moves (moves_within context _ _ dispatches.moves) (admits_stakes secured admitted_)
  have called := dispatches_more (dispatches_trans moves (dispatches_within context dispatches)) holds
  have held : ∀ other ∈ (a.preHandle request handler t).1.marks.spans,
      Stake.span other ∈ (a.preHandle request handler t).1.handlerStakes ++ stakes :=
    fun other member => List.mem_append_left _ (handler_stakes_span member)
  have terminals := terminals_handler context handler coordinators held
    fun unentered => List.mem_append_left _ (handler_stakes_missing unentered)
  exact ⟨_, dispatches_guard context _ terminals (fun other member => held other (List.mem_filter.mp member).1) called⟩

theorem dispatches_client {a b : ClientInterceptor} (interceptors : P.interceptors a b)
    (admits : admitted = true → P.Admits w t request) (here : t.current = u.current) :
    ∃ stakes, P.Dispatches w t u (Service.callClient a request below t) (Service.callClient b request other u) stakes := by
  obtain ⟨sent, marks, calls, started, stakes_⟩ := moves_call_start request interceptors rel fun _ => here
  have same := calls_context calls (moves_current started here)
  have secured : P.Secures w (a.start request t).2.2 (a.start request t).1 :=
    secures_same (secures_moves started secure) (congrArg Marks.spans marks)
  have entered : (a.start request t).1.entered = request.entered := by rw [Request.entered, Request.entered, marks]
  rw [client_started, client_started, ← sent, ← same]
  generalize (a.start request t).2.1.context (a.start request t).2.2 = context
  obtain ⟨stakes, dispatches⟩ := alike (a.start request t).1 (P.attach context started.rel)
    (covers_attach context (covers_moves started covered))
    (fun other member => (moves_attached context started.rel (secured other member)).2)
    (fun needed => fun unentered =>
      (moves_attached context started.rel (started.keeps _ (admits needed (entered ▸ unentered)))).2)
    fun _ => Telemetry.current_attach _ _ _
  have holds := covers_moves (moves_within context _ _ dispatches.moves) stakes_
  have called := dispatches_more (dispatches_trans started (dispatches_within context dispatches)) holds
  exact ⟨_, dispatches_instrumented calls (List.subset_append_left _ stakes) called⟩

theorem dispatches_locally (allowed : P.covers w t .localSpans) (admits : admitted = true → P.Admits w t request)
    (parent : request.marks.active? = none → t.current = u.current) (here : exposes request = true → t.current = u.current) :
    ∃ stakes, P.Dispatches w t u (Service.callLocalized request below t) (Service.callLocalized request other u) stakes := by
  obtain ⟨same, opened, localizes⟩ := moves_open_for .debug "http-server" request rel allowed parent
  rw [local_entered, local_entered]
  dsimp only
  rw [← same]
  generalize (LocalSpan.openFor .debug "http-server" request t).1 = span at localizes ⊢
  have enters := moves_entering localizes opened.rel
  have entered := fun stake covered => enters.keeps stake (opened.keeps stake covered)
  obtain ⟨stakes, dispatches⟩ := alike request enters.rel (fun stake member => entered stake (covered stake member))
    (fun other member => entered _ (secure other member)) (fun needed => fun unentered => entered _ (admits needed unentered))
    fun exposed => enters.current (moves_current opened (here exposed))
  have called := dispatches_more dispatches (covers_moves dispatches.moves enters.localizes.covered)
  exact ⟨_, dispatches_trans opened (dispatches_localized enters (List.subset_append_left _ stakes) called)⟩

end Layers

-- By induction on the layers, from the outside in.
theorem moves_dispatch {a b : Service} (alike : P.Services mine a b) :
    P.Alike w mine a.dispatch b.dispatch a.handlesFirst a.exposes := by
  induction alike with
  | innermost ready a b serves =>
      intro t u request rel covered secure _ here
      obtain ⟨stakes, hands⟩ := serves ready request rel covered secure (here rfl)
      exact ⟨stakes, dispatches_work hands⟩
  | traceServer a b x y boundaries below ih =>
      intro t u request rel covered secure _ here
      exact dispatches_server rel covered secure ih boundaries (fun unentered => here (by simp [Service.exposes, unentered]))
        fun exposed => here (by simp [Service.exposes, exposed])
  | traceHandler a b handler x y coordinators below ih =>
      intro t u request rel covered secure admits here
      exact dispatches_handler rel covered secure ih handler coordinators (admits rfl)
        fun inactive => here (by simp [Service.exposes, inactive])
  | traceClient a b x y interceptors below ih =>
      intro t u request rel covered secure admits here
      exact dispatches_client rel covered secure ih interceptors admits (here rfl)
  | traceLocally x y allowed below ih =>
      intro t u request rel covered secure admits here
      exact dispatches_locally rel covered secure ih (covered _ allowed) admits
        (fun inactive => here (by simp [Service.exposes, inactive])) fun exposed => here (by simp [Service.exposes, exposed])

end Steps

end Pairing

end RequestSpans
