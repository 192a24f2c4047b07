import RequestSpans.Proofs.Comparison.Client
import RequestSpans.Proofs.Server.Continuation
import RequestSpans.Proofs.Server.Decision

set_option autoImplicit false

namespace RequestSpans

-- What befalls a request and its copies. Besides the operations, anyone who has
-- a copy may rewrite it, all but the marks, which are tracing's own; and whatever
-- else the process does, it may do in between.
inductive Event where
  | acts (act : Act)
  | rewrite (member : Nat) (change : Request → Request)
  | elsewhere (step : Telemetry → Telemetry)

def Event.apply : Event → Family → Family
  | .acts act, family => act.apply family
  | .rewrite member change, family =>
      match family.members[member]? with
      | some request => family.put member ({ change request with marks := request.marks }, family.telemetry)
      | none => family
  | .elsewhere step, family => { family with telemetry := step family.telemetry }

def Family.follow (events : List Event) (family : Family) : Family :=
  events.foldl (fun family event => event.apply family) family

section Members

variable {kept : Request → Prop} (operates : ∀ operation request t, kept request → kept (Operation.apply operation request t).1)

include operates

theorem act_members (act : Act) (family : Family) (all : ∀ member ∈ family.members, kept member) :
    ∀ member ∈ (act.apply family).members, kept member := by
  cases act with
  | on index operation =>
      cases found : family.members[index]? with
      | none => simpa only [Act.apply, found] using all
      | some request =>
          intro member present
          simp only [Act.apply, found, Family.put] at present
          rcases List.mem_or_eq_of_mem_set present with old | rfl
          · exact all member old
          · exact operates operation request _ (all request (List.mem_of_getElem? found))
  | clone index =>
      cases found : family.members[index]? with
      | none => simpa only [Act.apply, found] using all
      | some request =>
          intro member present
          simp only [Act.apply, found] at present
          split at present
          · rcases List.mem_append.mp present with old | copy
            · exact all member old
            · obtain rfl := List.mem_singleton.mp copy
              exact all member (List.mem_of_getElem? found)
          · exact all member present

theorem follow_members (marks : ∀ request other : Request, other.marks = request.marks → kept request → kept other)
    (events : List Event) (family : Family) (all : ∀ member ∈ family.members, kept member) :
    ∀ member ∈ (family.follow events).members, kept member := by
  induction events generalizing family with
  | nil => exact all
  | cons event rest ih =>
      refine ih (event.apply family) ?_
      cases event with
      | acts act => exact act_members operates act family all
      | elsewhere step => exact all
      | rewrite index change =>
          cases found : family.members[index]? with
          | none => simpa only [Event.apply, found] using all
          | some request =>
              intro member present
              simp only [Event.apply, found, Family.put] at present
              rcases List.mem_or_eq_of_mem_set present with old | rfl
              · exact all member old
              · exact marks request _ rfl (all request (List.mem_of_getElem? found))

end Members

theorem follow_decision (decision : Bool × Option SpanContext) (entered : (decision.1 || decision.2.isSome) = true)
    (events : List Event) (family : Family) (all : ∀ member ∈ family.members, member.decision = decision) :
    ∀ member ∈ (family.follow events).members, member.decision = decision := by
  refine follow_members ?_ ?_ events family all
  · intro operation request t decided
    have settled : request.entered = true := (entered_decision request decision decided).trans entered
    exact (operation.apply_decision request t (.inl settled)).trans decided
  · intro request other same decided
    rw [Request.decision, same]
    exact decided

theorem run_quiet (acts : List Act) (family : Family) (all : ∀ member ∈ family.members, member.decision = (true, none)) :
    Quiet family.telemetry (family.run acts).telemetry := by
  induction acts generalizing family with
  | nil => exact quiet_self family.telemetry
  | cons act rest ih =>
      have still := follow_decision (true, none) rfl [.acts act] family all
      refine quiet_trans _ (act.apply family).telemetry _ ?_ (ih (act.apply family) still)
      cases act with
      | on index operation =>
          cases found : family.members[index]? with
          | none => simpa only [Act.apply, found] using quiet_self family.telemetry
          | some request =>
              simp only [Act.apply, found, Family.put]
              exact operation.apply_quiet request _ (all request (List.mem_of_getElem? found))
      | clone index =>
          cases found : family.members[index]? with
          | none => simpa only [Act.apply, found] using quiet_self family.telemetry
          | some request =>
              simp only [Act.apply, found]
              split <;> exact quiet_self family.telemetry

namespace Service

def withoutServers : Service → Service
  | .innermost ready serve => .innermost ready serve
  | .traceServer _ below => below.withoutServers
  | .traceHandler coordinator handler below => .traceHandler coordinator handler below.withoutServers
  | .traceClient interceptor below => .traceClient interceptor below.withoutServers
  | .traceLocally below => .traceLocally below.withoutServers

theorem call_server_entered (boundary : ServerBoundary) (request : Request)
    (call : Request → Telemetry → Option Task × Telemetry) (t : Telemetry) (entered : request.entered = true) :
    callServer boundary request call t = call request t := by
  cases marked : request.marks.wrapper? with
  | some server => rw [callServer, boundary.enter_again request t server marked]
  | none =>
      have untraced : request.marks.untraced = true := by simpa [Request.entered, marked] using entered
      rw [callServer, boundary.enter_untraced request t (Prod.ext untraced marked)]

theorem start_marks (interceptor : ClientInterceptor) (request : Request) (t : Telemetry) :
    (interceptor.start request t).1.marks = request.marks := by
  by_cases enabled : interceptor.enabled = true
  · rw [Pairing.start_enabled interceptor request _ _ t enabled rfl rfl]
    rfl
  · rw [Pairing.start_disabled interceptor request t (by simpa using enabled)]

theorem dispatch_without_servers (service : Service) (request : Request) (t : Telemetry) (entered : request.entered = true) :
    service.dispatch request t = service.withoutServers.dispatch request t := by
  induction service generalizing request t with
  | innermost ready serve => rfl
  | traceServer boundary below ih => exact (call_server_entered boundary request _ t entered).trans (ih request t entered)
  | traceHandler coordinator handler below ih =>
      have decided := coordinator.pre_handle_decision request handler t
      have still := (entered_decision _ request.decision decided).trans entered
      have same := funext fun now => ih (coordinator.preHandle request handler t).1 now still
      simp only [withoutServers, dispatch, callHandler, same]
  | traceClient interceptor below ih =>
      have still : (interceptor.start request t).1.entered = true := by
        rw [Request.entered, start_marks interceptor request t]
        exact entered
      have same := funext fun now => ih (interceptor.start request t).1 now still
      simp only [withoutServers, dispatch, callClient, same]
  | traceLocally below ih =>
      have same := funext fun now => ih request now entered
      simp only [withoutServers, dispatch, callLocalized, same]

end Service

def TerminalGuard.Idle (guard : TerminalGuard) : Prop := ∀ outcome? t, Quiet t (guard.conclude outcome? t)

namespace Task

theorem concludes_idle (outcome? : Option Outcome) (guards : List TerminalGuard) (bare last : Telemetry)
    (concludes : Concludes outcome? guards bare last) (idle : ∀ guard ∈ guards, guard.Idle) : Quiet bare last := by
  induction concludes with
  | unguarded t => exact quiet_self t
  | polled guard rest bare last _ ih =>
      obtain ⟨first, others⟩ := List.forall_mem_cons.mp idle
      have inside := ih others
      exact quiet_trans _ last.detach _ ⟨inside.ledger, inside.reported, inside.logs⟩ (first outcome? last.detach)
  | dropped guard rest bare last _ ih =>
      obtain ⟨first, others⟩ := List.forall_mem_cons.mp idle
      exact quiet_trans _ last _ (ih others) (first outcome? last)

theorem drive_idle (meanwhile : Nat → Telemetry → Telemetry) (polls : Nat) (guards : List TerminalGuard) (inner : Task)
    (t : Telemetry) (idle : ∀ guard ∈ guards, guard.Idle) :
    let bare := (scopedBy (guards.map TerminalGuard.context) inner).drive meanwhile polls t
    let run := (guardedBy guards inner).drive meanwhile polls t
    run.1 = bare.1 ∧ Quiet bare.2 run.2 := by
  intro bare run
  obtain ⟨same, concludes⟩ := drive_concludes meanwhile polls guards inner t
  exact ⟨same, concludes_idle bare.1 guards bare.2 run.2 concludes idle⟩

end Task

inductive Layer where
  | traceServer (boundary : ServerBoundary)
  | traceHandler (coordinator : HandlerCoordinator) (handler : Handler)

namespace Layer

def around : List Layer → Service → Service
  | [], below => below
  | .traceServer boundary :: rest, below => .traceServer boundary (around rest below)
  | .traceHandler coordinator handler :: rest, below => .traceHandler coordinator handler (around rest below)

def isHandler : Layer → Bool
  | .traceServer _ => false
  | .traceHandler _ _ => true

def pass (request : Request) : Layer → Request
  | .traceServer _ => request
  | .traceHandler _ _ => { request with marks := { request.marks with asyncPending := false } }

def arrival (layers : List Layer) (request : Request) : Request := layers.foldl pass request

def place (request : Request) (t : Telemetry) : Context := request.marks.active?.getD t.current

-- A request passes through layers if the service below is called with it, and
-- its task is driven as if it stood alone, whether it resolves, panics or is
-- dropped. `here` is where the handlers have it run.
def Passes (layers : List Layer) (ready : Bool) (serve : Serve) (request : Request) (t : Telemetry) : Prop :=
  ∃ called returned, Quiet t called ∧ Quiet (serve ready (arrival layers request) called).2 returned ∧
    match (serve ready (arrival layers request) called).1 with
    | none => (around layers (.innermost ready serve)).dispatch request t = (none, returned)
    | some work => ∃ task, (around layers (.innermost ready serve)).dispatch request t = (some task, returned) ∧
        ∀ (meanwhile : Nat → Telemetry → Telemetry) (polls : Nat),
          let here := List.replicate (layers.countP isHandler) (place request t)
          let bare := (Task.scopedBy here (.ofWork work)).drive meanwhile polls returned
          let run := task.drive meanwhile polls returned
          run.1 = bare.1 ∧ Quiet bare.2 run.2

theorem handler_fires (coordinator : HandlerCoordinator) (handler : Handler) (request : Request) (signal : Signal)
    (t : Telemetry) (untraced : request.marks.untraced = true) :
    (Service.handlerTerminal coordinator handler request).fire signal t = t := by
  have activated := coordinator.activate_untraced request handler t untraced
  cases signal <;> simp only [Service.handlerTerminal, HandlerCoordinator.afterCompletion, activated]

theorem handler_idle (context : Context) (coordinator : HandlerCoordinator) (handler : Handler) (request : Request)
    (untraced : request.marks.untraced = true) :
    (TerminalGuard.new context (Service.handlerTerminal coordinator handler request)).Idle := by
  have signalled : ∀ signal t, (TerminalGuard.new context (Service.handlerTerminal coordinator handler request)).signal
      signal t = (true, ⟨context, none⟩, t) := by
    intro signal t
    simp only [TerminalGuard.signal, TerminalGuard.new, Telemetry.within, handler_fires _ _ _ _ _ untraced]
    rfl
  intro outcome? t
  cases outcome? with
  | some outcome =>
      simp only [TerminalGuard.conclude, TerminalGuard.complete, signalled]
      exact quiet_self t
  | none =>
      simp only [TerminalGuard.conclude, TerminalGuard.drop, TerminalGuard.cancel, signalled]
      exact quiet_log t _ _

theorem pre_handle_passes (coordinator : HandlerCoordinator) (handler : Handler) (request : Request) (t : Telemetry)
    (untraced : request.marks.untraced = true) :
    ∃ later, coordinator.preHandle request handler t = (pass request (.traceHandler coordinator handler), later) ∧
      Quiet t later ∧ later.ambient = t.ambient := by
  cases pending : request.marks.asyncPending with
  | true =>
      refine ⟨t.log .debug "async dispatch resumed" [("handler", handler.display)], ?_, quiet_log t _ _, t.ambient_log _ _ _⟩
      simp only [HandlerCoordinator.preHandle, pending, if_true, pass]
  | false =>
      refine ⟨t, ?_, quiet_self t, rfl⟩
      have same : pass request (.traceHandler coordinator handler) = request := by
        rw [pass, ← pending]
      rw [Pairing.pre_handle_activated handler pending, coordinator.activate_untraced request handler t untraced, same]

theorem call_handler_passes (coordinator : HandlerCoordinator) (handler : Handler) (request : Request)
    (call : Request → Telemetry → Option Task × Telemetry) (t : Telemetry) (untraced : request.marks.untraced = true) :
    ∃ later guard, Quiet t later ∧ guard.Idle ∧ guard.context = place request t ∧ later.current = place request t ∧
      Service.callHandler coordinator handler request call t =
        ((call (pass request (.traceHandler coordinator handler)) later).1.map (.guarded guard false),
          (call (pass request (.traceHandler coordinator handler)) later).2.detach) := by
  obtain ⟨later, prepared, quiet, ambient⟩ := pre_handle_passes coordinator handler request t untraced
  have here : (pass request (.traceHandler coordinator handler)).marks.active?.getD later.current = place request t := by
    rw [Telemetry.current, ambient]
    rfl
  have unopened : (pass request (.traceHandler coordinator handler)).marks.spans.filter
      (fun span => !request.marks.spans.contains span) = [] := by
    rw [List.filter_eq_nil_iff]
    intro span member
    have known : span ∈ request.marks.spans := member
    simpa using known
  refine ⟨later.attach (place request t), .new (place request t) (Service.handlerTerminal coordinator handler
    (pass request (.traceHandler coordinator handler))), ⟨quiet.ledger, quiet.reported, quiet.logs⟩,
    handler_idle _ coordinator handler _ untraced, rfl, rfl, ?_⟩
  simp only [Service.callHandler, prepared, here, unopened, Telemetry.within]
  rcases call (pass request (.traceHandler coordinator handler)) (later.attach (place request t)) with ⟨none_ | task, after⟩ <;> rfl

theorem dispatch_passes (layers : List Layer) (ready : Bool) (serve : Serve) (request : Request) (t : Telemetry)
    (skipped : request.decision = (true, none)) :
    ∃ called returned guards, Quiet t called ∧ Quiet (serve ready (arrival layers request) called).2 returned ∧
      (∀ guard ∈ guards, guard.Idle) ∧
      guards.map TerminalGuard.context = List.replicate (layers.countP isHandler) (place request t) ∧
      (around layers (.innermost ready serve)).dispatch request t =
        ((serve ready (arrival layers request) called).1.map fun work => Task.guardedBy guards (.ofWork work), returned) := by
  induction layers generalizing request t with
  | nil => exact ⟨t, (serve ready request t).2, [], quiet_self t, quiet_self _, by simp, by simp, rfl⟩
  | cons layer rest ih =>
      cases layer with
      | traceServer boundary =>
          obtain ⟨called, returned, guards, before, after, idle, contexts, dispatched⟩ := ih request t skipped
          have entered : request.entered = true := entered_decision request (true, none) skipped
          refine ⟨called, returned, guards, before, after, idle, by simpa [isHandler] using contexts, ?_⟩
          exact (Service.call_server_entered boundary request _ t entered).trans dispatched
      | traceHandler coordinator handler =>
          obtain ⟨later, guard, quiet, idle, context, current, called_⟩ := call_handler_passes coordinator handler request
            (around rest (.innermost ready serve)).dispatch t (untraced_decision request skipped).1
          obtain ⟨called, returned, guards, before, after, all, contexts, dispatched⟩ :=
            ih (pass request (.traceHandler coordinator handler)) later skipped
          have there : place (pass request (.traceHandler coordinator handler)) later = place request t := by
            rw [place, current, place]
            cases active : request.marks.active? <;> simp [pass, active]
          rw [dispatched] at called_
          refine ⟨called, returned.detach, guard :: guards, quiet_trans _ _ _ quiet before,
            ⟨after.ledger, after.reported, after.logs⟩, ?_, ?_, ?_⟩
          · intro member known
            exact (List.mem_cons.mp known).elim (fun first => first ▸ idle) (all member)
          · rw [List.map_cons, contexts, there, context, List.countP_cons_of_pos (by rfl), List.replicate_succ]
          · refine called_.trans ?_
            rw [Option.map_map]
            rfl

theorem passes (layers : List Layer) (ready : Bool) (serve : Serve) (request : Request) (t : Telemetry)
    (skipped : request.decision = (true, none)) : Passes layers ready serve request t := by
  obtain ⟨called, returned, guards, before, after, idle, contexts, dispatched⟩ :=
    dispatch_passes layers ready serve request t skipped
  refine ⟨called, returned, before, after, ?_⟩
  rw [dispatched]
  cases (serve ready (arrival layers request) called).1 with
  | none => rfl
  | some work =>
      refine ⟨_, rfl, fun meanwhile polls => ?_⟩
      rw [← contexts]
      exact Task.drive_idle meanwhile polls guards (.ofWork work) returned idle

end Layer

structure Skipped (member : Request) (t : Telemetry) : Prop where
  enters : ∀ boundary : ServerBoundary, boundary.enter member t = (.skipped, member, t)
  rests : ∀ operation : Operation, Quiet t (operation.apply member t).2
  passes : ∀ (layers : List Layer) (ready : Bool) (serve : Serve), Layer.Passes layers ready serve member t
  served : ∀ service : Service, service.dispatch member t = service.withoutServers.dispatch member t

structure Redispatched (server : SpanContext) (member : Request) (t : Telemetry) : Prop where
  enters : ∀ boundary : ServerBoundary, boundary.enter member t = (.redispatch server, member, t)
  served : ∀ service : Service, service.dispatch member t = service.withoutServers.dispatch member t

theorem skipped_member (member : Request) (t : Telemetry) (skipped : member.decision = (true, none)) : Skipped member t where
  enters := fun boundary => boundary.enter_untraced member t skipped
  rests := fun operation => operation.apply_quiet member t skipped
  passes := fun layers ready serve => Layer.passes layers ready serve member t skipped
  served := fun service => service.dispatch_without_servers member t (entered_decision member _ skipped)

theorem redispatched_member (server : SpanContext) (member : Request) (t : Telemetry)
    (started : member.decision = (false, some server)) : Redispatched server member t where
  enters := fun boundary => boundary.enter_again member t server (Prod.mk.inj started).2
  served := fun service => service.dispatch_without_servers member t (entered_decision member _ started)

theorem consistent_members (request : Request) (t : Telemetry) (events : List Event) (undecided : request.entered = false) :
    ∀ member ∈ (Family.follow events ⟨[request], t⟩).members,
      member.marks.untraced = true → member.marks.wrapper? = none := by
  refine follow_members (fun operation request t => operation.apply_consistent request t) ?_ events _ ?_
  · intro request other same consistent
    rw [same]
    exact consistent
  · intro member known
    obtain rfl := List.mem_singleton.mp known
    have unmarked : member.marks.untraced = false ∧ member.marks.wrapper? = none := by
      simpa [Request.entered] using undecided
    exact fun _ => unmarked.2

-- `events` come after the first entry of a request, by whichever boundary. That
-- marker and wrapper exclude each other holds before it as well.
theorem first_entry_decides (boundary : ServerBoundary) (request : Request) (t : Telemetry) (events : List Event)
    (undecided : request.entered = false) :
    let entry := boundary.enter request t
    let family := Family.follow events ⟨[entry.2.1], entry.2.2⟩
    (∀ member ∈ (Family.follow events ⟨[request], t⟩).members,
        member.marks.untraced = true → member.marks.wrapper? = none) ∧
      (∀ member ∈ family.members, member.marks.untraced = true → member.marks.wrapper? = none) ∧
      ((entry.1 = .skipped ∧ Quiet t entry.2.2 ∧ (∀ acts, Quiet family.telemetry (family.run acts).telemetry) ∧
          ∀ member ∈ family.members, Skipped member family.telemetry) ∨
        ∃ server, entry.1 = .started server ∧ ∀ member ∈ family.members, Redispatched server member family.telemetry) := by
  intro entry family
  refine ⟨consistent_members request t events undecided,
    consistent_members request t (.acts (.on 0 (.enter boundary)) :: events) undecided, ?_⟩
  rcases boundary.enter_first request t undecided with ⟨skipped, decided, quiet⟩ | ⟨server, started, decided⟩
  · have all := follow_decision (true, none) rfl events ⟨[entry.2.1], entry.2.2⟩ (by simpa using decided)
    exact .inl ⟨skipped, quiet, fun acts => run_quiet acts family all, fun member known => skipped_member member _ (all member known)⟩
  · have all := follow_decision (false, some server) rfl events ⟨[entry.2.1], entry.2.2⟩ (by simpa using decided)
    exact .inr ⟨server, started, fun member known => redispatched_member server member _ (all member known)⟩

theorem first_entry_decides_order :
    let disabled : ServerBoundary := { plainBoundary with enabled := false }
    let events := [.acts (.clone 0), .rewrite 1 fun request => { request with uri := ⟨none, none, "/reports"⟩ },
      .acts (.on 1 (.enter plainBoundary)), .acts (.on 0 (.asyncStarted plainCoordinator orders)),
      .elsewhere fun t => t.log .info "reloading" [], .acts (.on 0 (.complete plainBoundary ⟨.ok, ⟨[]⟩, ""⟩))]
    let entry := disabled.enter order (.start .silent false)
    let family := Family.follow events ⟨[entry.2.1], entry.2.2⟩
    family.members.length = 2 ∧ ∀ member ∈ family.members,
      plainBoundary.enter member family.telemetry = (.skipped, member, family.telemetry) ∧
        Layer.Passes [.traceServer plainBoundary, .traceHandler plainCoordinator orders] true
          (Answer.serve fun _ _ t => (Stack.stockCheck, t)) member family.telemetry := by
  intro disabled events entry family
  obtain ⟨_, _, skipped | ⟨server, started, _⟩⟩ := first_entry_decides disabled order (.start .silent false) events rfl
  · refine ⟨rfl, fun member known => ?_⟩
    have met := skipped.2.2.2 member known
    exact ⟨met.enters plainBoundary, met.passes _ true _⟩
  · contradiction

end RequestSpans
