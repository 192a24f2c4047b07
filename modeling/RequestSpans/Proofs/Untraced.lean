import RequestSpans.Proofs.Comparison.Service
import RequestSpans.Proofs.Server.Passage

set_option autoImplicit false

namespace RequestSpans

-- What a service sees of its request. The marks are tracing's own.
def Request.sight (request : Request) : Request := { request with marks := .none }

-- Code that goes by what it sees: the request, and the context that is current
-- when it is called and whenever its work is polled.
def Work.GoesBySight (work : Work) : Prop :=
  ∀ polls t u, t.current = u.current → (work.poll polls t).1 = (work.poll polls u).1

def AnswersBySight (send : Request → Telemetry → Option Work × Telemetry) : Prop :=
  ∀ request other t u, other.sight = request.sight → t.current = u.current →
    (send request t).1 = (send other u).1 ∧ ∀ work, (send request t).1 = some work → work.GoesBySight

def Amid (contexts : Nat → Context) (meanwhile : Nat → Telemetry → Telemetry) : Prop :=
  ∀ left t, (meanwhile left t).current = contexts left

theorem amid_attach (contexts : Nat → Context) : Amid contexts fun left t => t.attach (contexts left) := fun _ _ => rfl

def outcomeOf (answer : Option Task × Telemetry) (meanwhile : Nat → Telemetry → Telemetry) (polls : Nat) :
    Option (Option Outcome) :=
  answer.1.map fun task => (task.drive meanwhile polls answer.2).1

abbrev Calling := (Request → Telemetry → Option Task × Telemetry) → Request → Telemetry → Option Task × Telemetry

-- Whatever the innermost service does, a call through the layer that is polled in
-- some contexts comes to the same as one without it that is polled in others.
def LooksLike (calling : Calling) (request : Request) (t : Telemetry) (through without : Nat → Context) (polls : Nat) :
    Prop :=
  ∀ (ready : Bool) (serve : Serve) (meanwhile other : Nat → Telemetry → Telemetry), AnswersBySight (serve ready) →
    Amid through meanwhile → Amid without other →
    outcomeOf (calling (Service.innermost ready serve).dispatch request t) meanwhile polls =
      outcomeOf ((Service.innermost ready serve).dispatch request t) other polls

structure Reaches (request called : Request) (t now : Telemetry) (context : Context) : Prop where
  sight : called.sight = request.sight
  current : now.current = context
  ledger : now.ledger = t.ledger

def HandsBack (calling : Calling) (request : Request) (t : Telemetry) : Prop :=
  ∀ below, ∃ called now, Reaches request called t now t.current ∧
    (calling below request t).1 = (below called now).1 ∧ (calling below request t).2.ledger = (below called now).2.ledger

def HoldsIn (calling : Calling) (request : Request) (t : Telemetry) (context : Context) : Prop :=
  ∀ below, ∃ called now, Reaches request called t now context ∧
    (calling below request t).2.ledger = (below called now).2.ledger ∧
    Option.Rel (fun task held => ∀ meanwhile polls u,
        let bare := (Task.scoped context task).drive meanwhile polls u
        let run := held.drive meanwhile polls u
        run.1 = bare.1 ∧ run.2.ledger = bare.2.ledger) (below called now).1 (calling below request t).1

structure Transparent (calling : Calling) (request : Request) (t : Telemetry) : Prop where
  handed : HandsBack calling request t
  unseen : ∀ contexts polls, LooksLike calling request t contexts contexts polls

-- The layer is seen on all schedules but those that keep to the context of the
-- call themselves.
structure Detains (calling : Calling) (request : Request) (t : Telemetry) (context : Context) : Prop where
  handed : HoldsIn calling request t context
  moved : t.current = context → ∀ contexts polls, LooksLike calling request t contexts (fun _ => context) polls
  unseen : t.current = context → ∀ contexts polls,
    LooksLike calling request t contexts contexts polls ↔ ∀ left, 0 < left → left ≤ polls → contexts left = context

def sendThenPoll (send : Telemetry → Option Work × Telemetry) (t : Telemetry) : Polled × Telemetry :=
  match send t with
  | (some work, t) => Task.pollWork work 0 t
  | (none, t) => (.panicked, t)

def driveSend (send : Telemetry → Option Work × Telemetry) (meanwhile : Nat → Telemetry → Telemetry) :
    Nat → Telemetry → Option Outcome × Telemetry
  | 0, t => (none, meanwhile 0 t)
  | polls + 1, t =>
      match sendThenPoll send (meanwhile (polls + 1) t) with
      | (.pending rest, t) => rest.drive meanwhile polls t
      | (.ready outcome, t) => (some outcome, t)
      | (.panicked, t) => (none, t)

structure Sends (interceptor : ClientInterceptor) (request : Request)
    (send : Request → Telemetry → Option Work × Telemetry) : Prop where
  handed : ∀ meanwhile polls t, (Task.lazyCall interceptor request send).drive meanwhile polls t =
    driveSend (fun t => t.within t.current (send request)) meanwhile polls t
  unseen : AnswersBySight send → (∀ t, (send request t).2.ambient = t.ambient) →
    ∀ contexts meanwhile other polls t u, Amid contexts meanwhile → Amid contexts other →
      ((Task.lazyCall interceptor request send).drive meanwhile polls t).1 = (driveSend (send request) other polls u).1

section Schedules

variable {contexts others : Nat → Context} {meanwhile other : Nat → Telemetry → Telemetry}

theorem drive_by_sight (work : Work) (sighted : work.GoesBySight) (here : Amid contexts meanwhile)
    (there : Amid others other) (left polls : Nat) (t u : Telemetry)
    (agree : ∀ later, 0 < later → later ≤ left → contexts later = others later) :
    ((Task.leaf work polls).drive meanwhile left t).1 = ((Task.leaf work polls).drive other left u).1 := by
  induction left generalizing polls t u with
  | zero => rfl
  | succ left ih =>
      have now : (meanwhile (left + 1) t).current = (other (left + 1) u).current := by
        rw [here, there, agree (left + 1) (Nat.succ_pos left) (Nat.le_refl _)]
      have same := sighted polls _ _ now
      rcases first : work.poll polls (meanwhile (left + 1) t) with ⟨progress, later⟩
      rcases second : work.poll polls (other (left + 1) u) with ⟨progress', later'⟩
      rw [first, second] at same
      obtain rfl : progress = progress' := same
      cases progress <;> simp only [Task.drive, Task.poll, Task.pollWork, first, second]
      exact ih (polls + 1) later later' fun k some_ most => agree k some_ (Nat.le_succ_of_le most)

theorem drive_scoped_by_sight (context : Context) (work : Work) (sighted : work.GoesBySight)
    (there : Amid (fun _ => context) other) (left polls : Nat) (t u : Telemetry) :
    ((Task.scoped context (.leaf work polls)).drive meanwhile left t).1 = ((Task.leaf work polls).drive other left u).1 := by
  induction left generalizing polls t u with
  | zero => rfl
  | succ left ih =>
      have same := sighted polls ((meanwhile (left + 1) t).attach context) (other (left + 1) u) (there _ u).symm
      rcases first : work.poll polls ((meanwhile (left + 1) t).attach context) with ⟨progress, later⟩
      rcases second : work.poll polls (other (left + 1) u) with ⟨progress', later'⟩
      rw [first, second] at same
      obtain rfl : progress = progress' := same
      cases progress <;> simp only [Task.drive, Task.poll, Task.pollWork, Telemetry.within, first, second]
      exact ih (polls + 1) later.detach later'

def lookout (turn : Nat) (context : Context) : Work :=
  ⟨fun polls t => (if polls = turn ∧ t.current = context then .ready (.ok ⟨.ok, .empty, ""⟩) else .pending, t)⟩

def watching (turn : Nat) (context : Context) : Serve := fun _ _ t => (some (lookout turn context), t)

theorem watching_sighted (turn : Nat) (context : Context) (ready : Bool) : AnswersBySight (watching turn context ready) := by
  intro request other t u _ _
  refine ⟨rfl, ?_⟩
  rintro work ⟨⟩ polls t u same
  simp only [lookout, same]

theorem drive_lookout (turn : Nat) (context : Context) (here : Amid contexts meanwhile) (left polls : Nat) (t : Telemetry) :
    ((Task.leaf (lookout turn context) polls).drive meanwhile left t).1.isSome = true ↔
      polls ≤ turn ∧ turn < polls + left ∧ contexts (polls + left - turn) = context := by
  induction left generalizing polls t with
  | zero =>
      simp only [Task.drive, Option.isSome_none, Bool.false_eq_true, false_iff, not_and]
      omega
  | succ left ih =>
      by_cases due : polls = turn ∧ contexts (left + 1) = context
      · obtain ⟨rfl, right⟩ := due
        simp [Task.drive, Task.poll, Task.pollWork, lookout, here (left + 1) t, right]
      · have missed : (lookout turn context).poll polls (meanwhile (left + 1) t) = (.pending, meanwhile (left + 1) t) := by
          simp [lookout, here (left + 1) t, due]
        simp only [Task.drive, Task.poll, Task.pollWork, missed, ih]
        have shifted : polls + 1 + left = polls + (left + 1) := by omega
        rw [shifted]
        constructor
        · rintro ⟨early, late, right⟩
          exact ⟨by omega, late, right⟩
        · rintro ⟨early, late, right⟩
          refine ⟨?_, late, right⟩
          rcases Nat.eq_or_lt_of_le early with rfl | later
          · exact absurd ⟨rfl, by simpa using right⟩ due
          · exact later

end Schedules

theorem answer_innermost (ready : Bool) (serve : Serve) (request : Request) (t : Telemetry) :
    ((Service.innermost ready serve).dispatch request t).1 = (serve ready request t).1.map Task.ofWork := rfl

theorem outcome_innermost (ready : Bool) (serve : Serve) (request : Request) (t : Telemetry)
    (meanwhile : Nat → Telemetry → Telemetry) (polls : Nat) :
    outcomeOf ((Service.innermost ready serve).dispatch request t) meanwhile polls =
      (serve ready request t).1.map fun work => ((Task.leaf work 0).drive meanwhile polls (serve ready request t).2).1 := by
  rw [outcomeOf, answer_innermost, Option.map_map]
  rfl

theorem outcome_watching (turn : Nat) (context : Context) (request : Request) (t : Telemetry)
    (meanwhile : Nat → Telemetry → Telemetry) (polls : Nat) :
    outcomeOf ((Service.innermost true (watching turn context)).dispatch request t) meanwhile polls =
      some ((Task.leaf (lookout turn context) 0).drive meanwhile polls t).1 := rfl

section Seen

variable {calling : Calling} {request : Request} {t : Telemetry} {context : Context}

theorem hands_back_transparent (handed : HandsBack calling request t) : Transparent calling request t := by
  refine ⟨handed, fun contexts polls ready serve meanwhile other answers here there => ?_⟩
  obtain ⟨called, now, reaches, same, _⟩ := handed (Service.innermost ready serve).dispatch
  obtain ⟨alike, sighted⟩ := answers request called t now reaches.sight reaches.current.symm
  rw [outcome_innermost, outcomeOf, same, answer_innermost, ← alike, Option.map_map]
  cases answered : (serve ready request t).1 with
  | none => rfl
  | some work =>
      exact congrArg some (drive_by_sight work (sighted work answered) here there polls 0 _ _ fun _ _ _ => rfl)

theorem holds_in_moved (handed : HoldsIn calling request t context) (at_call : t.current = context)
    (contexts : Nat → Context) (polls : Nat) : LooksLike calling request t contexts (fun _ => context) polls := by
  intro ready serve meanwhile other answers here there
  obtain ⟨called, now, reaches, _, held⟩ := handed (Service.innermost ready serve).dispatch
  obtain ⟨alike, sighted⟩ := answers request called t now reaches.sight (at_call.trans reaches.current.symm)
  rw [answer_innermost, ← alike] at held
  rw [outcome_innermost, outcomeOf]
  generalize (calling (Service.innermost ready serve).dispatch request t).1 = held? at held
  cases answered : (serve ready request t).1 with
  | none =>
      rw [answered] at held
      cases held
      rfl
  | some work =>
      rw [answered] at held
      cases held with
      | some driven =>
          rw [Option.map_some, (driven meanwhile polls _).1]
          exact congrArg some (drive_scoped_by_sight context work (sighted work answered) there polls 0 _ _)

theorem holds_in_detains (handed : HoldsIn calling request t context) : Detains calling request t context := by
  refine ⟨handed, holds_in_moved handed, fun at_call contexts polls => ⟨fun looks left some_ most => ?_, fun kept => ?_⟩⟩
  · -- The service below looks out for the context of just that poll.
    have sighted := watching_sighted (polls - left) (contexts left) true
    have same := looks true _ _ _ sighted (amid_attach contexts) (amid_attach contexts)
    rw [holds_in_moved handed at_call contexts polls true _ _ _ sighted (amid_attach _) (amid_attach _),
      outcome_watching, outcome_watching] at same
    have due := (drive_lookout (polls - left) (contexts left) (amid_attach contexts) polls 0 t).mpr
      ⟨Nat.zero_le _, by omega, by congr 1; omega⟩
    rw [← Option.some.inj same] at due
    exact ((drive_lookout _ _ (amid_attach fun _ => context) polls 0 t).mp due).2.2.symm
  · intro ready serve meanwhile other answers here there
    have sighted := (answers request request t t rfl rfl).2
    rw [holds_in_moved handed at_call contexts polls ready serve meanwhile _ answers here (amid_attach _),
      outcome_innermost, outcome_innermost]
    cases answered : (serve ready request t).1 with
    | none => rfl
    | some work =>
        refine congrArg some (drive_by_sight work (sighted work answered) (amid_attach _) there polls 0 _ _ ?_)
        exact fun later some_ most => (kept later some_ most).symm

end Seen

theorem enter_skipped (boundary : ServerBoundary) (request : Request) (t : Telemetry)
    (skipped : (boundary.enter request t).1 = .skipped) :
    Reaches request (boundary.enter request t).2.1 t (boundary.enter request t).2.2 t.current := by
  have looked : (boundary.isTraced request t).2.ambient = t.ambient ∧ (boundary.isTraced request t).2.ledger = t.ledger := by
    unfold ServerBoundary.isTraced
    dsimp only
    split
    · exact ⟨rfl, rfl⟩
    · split
      · exact ⟨t.ambient_log _ _ _, t.ledger_log _ _ _⟩
      · split
        · exact ⟨t.ambient_log _ _ _, t.ledger_log _ _ _⟩
        · exact ⟨rfl, rfl⟩
  unfold ServerBoundary.enter at skipped ⊢
  split at skipped
  · contradiction
  · dsimp only at skipped ⊢
    cases decided : request.marks.untraced with
    | true => exact ⟨rfl, rfl, rfl⟩
    | false =>
        simp only [decided, Bool.false_eq_true, if_false] at skipped ⊢
        split at skipped
        · contradiction
        · rename_i refused
          rw [if_neg refused]
          exact ⟨rfl, by rw [Telemetry.current, looked.1, Telemetry.current], looked.2⟩

theorem skipping_hands_back (boundary : ServerBoundary) (request : Request) (t : Telemetry)
    (skipped : (boundary.enter request t).1 = .skipped) :
    HandsBack (fun below request => Service.callServer boundary request below) request t := by
  intro below
  have called : Service.callServer boundary request below t =
      below (boundary.enter request t).2.1 (boundary.enter request t).2.2 := by
    rw [Pairing.server_entered, skipped]
  exact ⟨_, _, enter_skipped boundary request t skipped, congrArg Prod.fst called, congrArg (·.2.ledger) called⟩

theorem disabled_hands_back (interceptor : ClientInterceptor) (request : Request) (t : Telemetry)
    (disabled : interceptor.enabled = false) :
    HandsBack (fun below request => Service.callClient interceptor request below) request t := by
  intro below
  refine ⟨request, t.attach t.current, ⟨rfl, rfl, rfl⟩, ?_⟩
  simp only [Service.callClient, Pairing.start_disabled interceptor request t disabled, ClientCall.context, Telemetry.within]
  rcases below request (t.attach t.current) with ⟨none_ | task, later⟩ <;> exact ⟨rfl, rfl⟩

theorem poll_disabled (interceptor : ClientInterceptor) (request : Request)
    (send : Request → Telemetry → Option Work × Telemetry) (t : Telemetry) (disabled : interceptor.enabled = false) :
    (Task.lazyCall interceptor request send).poll t = sendThenPoll (fun t => t.within t.current (send request)) t := by
  rw [Task.poll, Pairing.poll_call_sent, Pairing.sentCall, Pairing.start_disabled interceptor request t disabled]
  simp only [Pairing.pollSent, ClientCall.context, sendThenPoll]
  rcases t.within t.current (send request) with ⟨none_ | work, later⟩ <;> rfl

theorem disabled_sends (interceptor : ClientInterceptor) (request : Request)
    (send : Request → Telemetry → Option Work × Telemetry) (disabled : interceptor.enabled = false) :
    Sends interceptor request send := by
  have handed : ∀ meanwhile polls t, (Task.lazyCall interceptor request send).drive meanwhile polls t =
      driveSend (fun t => t.within t.current (send request)) meanwhile polls t := by
    intro meanwhile polls t
    cases polls with
    | zero => rfl
    | succ polls =>
        rcases polled : sendThenPoll (fun t => t.within t.current (send request)) (meanwhile (polls + 1) t) with
          ⟨rest | outcome | _, later⟩ <;>
        simp only [Task.drive, driveSend, poll_disabled interceptor request send _ disabled, polled]
  refine ⟨handed, fun answers balanced contexts meanwhile other polls t u here there => ?_⟩
  rw [handed]
  cases polls with
  | zero => rfl
  | succ polls =>
      generalize outside : meanwhile (polls + 1) t = v
      generalize inside : other (polls + 1) u = w
      have now : v.current = w.current := by rw [← outside, ← inside, here, there]
      obtain ⟨same, sighted⟩ := answers request request (v.attach v.current) w rfl now
      have back : (send request (v.attach v.current)).2.detach.current = (send request w).2.current := by
        simp only [Telemetry.current, Telemetry.detach, balanced, Telemetry.attach, List.tail_cons]
        exact now
      rcases first : send request (v.attach v.current) with ⟨work?, later⟩
      rcases second : send request w with ⟨work?', later'⟩
      rw [first, second] at same back
      obtain rfl : work? = work?' := same
      cases work? with
      | none => simp only [driveSend, outside, inside, sendThenPoll, Telemetry.within, first, second]
      | some work =>
          have looks := sighted work (by rw [first])
          have progress := looks 0 _ _ back
          rcases early : work.poll 0 later.detach with ⟨step, after⟩
          rcases late : work.poll 0 later' with ⟨step', after'⟩
          rw [early, late] at progress
          obtain rfl : step = step' := progress
          cases step <;> simp only [driveSend, outside, inside, sendThenPoll, Telemetry.within, first, second,
            Task.pollWork, early, late]
          exact drive_by_sight work looks here there polls 1 after after' fun _ _ _ => rfl

theorem pre_handle_idle (coordinator : HandlerCoordinator) (handler : Handler) (request : Request) (t : Telemetry)
    (idle : request.marks.untraced = true ∨ request.marks.wrapper? = none) :
    ∃ later, coordinator.preHandle request handler t = (Layer.pass request (.traceHandler coordinator handler), later) ∧
      later.ambient = t.ambient ∧ later.ledger = t.ledger := by
  cases pending : request.marks.asyncPending with
  | true =>
      refine ⟨t.log .debug "async dispatch resumed" [("handler", handler.display)], ?_, t.ambient_log _ _ _,
        t.ledger_log _ _ _⟩
      simp only [HandlerCoordinator.preHandle, pending, if_true, Layer.pass]
  | false =>
      have same : Layer.pass request (.traceHandler coordinator handler) = request := by
        rw [Layer.pass, ← pending]
      rw [Pairing.pre_handle_activated handler pending, same]
      cases decided : request.marks.untraced with
      | true =>
          rw [coordinator.activate_untraced request handler t decided]
          exact ⟨t, rfl, rfl, rfl⟩
      | false =>
          have unmarked : request.marks.wrapper? = none := by simpa [decided] using idle
          rw [coordinator.activate_missing request handler t decided unmarked]
          exact ⟨_, rfl, coordinator.ambient_report handler t, coordinator.report_missing_ledger handler t⟩

theorem conclude_idle (context : Context) (coordinator : HandlerCoordinator) (handler : Handler) (request : Request)
    (idle : request.marks.untraced = true ∨ request.marks.wrapper? = none) (outcome? : Option Outcome) (t : Telemetry) :
    ((TerminalGuard.new context (Service.handlerTerminal coordinator handler request)).conclude outcome? t).ledger =
      t.ledger := by
  have fired : ∀ signal u, ((Service.handlerTerminal coordinator handler request).fire signal u).ledger = u.ledger := by
    intro signal u
    obtain ⟨later, activated, same⟩ := Operation.activate_idle coordinator request handler u idle
    cases signal <;> simp only [Service.handlerTerminal, HandlerCoordinator.afterCompletion, activated, same]
  rw [conclude_new, fired]
  rfl

theorem idle_holds_in (coordinator : HandlerCoordinator) (handler : Handler) (request : Request) (t : Telemetry)
    (idle : request.marks.untraced = true ∨ request.marks.wrapper? = none) :
    HoldsIn (fun below request => Service.callHandler coordinator handler request below) request t
      (Layer.place request t) := by
  intro below
  obtain ⟨later, prepared, ambient, ledger⟩ := pre_handle_idle coordinator handler request t idle
  have here : (Layer.pass request (.traceHandler coordinator handler)).marks.active?.getD later.current =
      Layer.place request t := by
    rw [Telemetry.current, ambient]
    rfl
  have unopened : (Layer.pass request (.traceHandler coordinator handler)).marks.spans.filter
      (fun span => !request.marks.spans.contains span) = [] := by
    rw [List.filter_eq_nil_iff]
    intro span member
    have known : span ∈ request.marks.spans := member
    simpa using known
  refine ⟨Layer.pass request (.traceHandler coordinator handler), later.attach (Layer.place request t),
    ⟨rfl, rfl, ledger⟩, ?_⟩
  simp only [Pairing.handler_prepared, prepared, here, unopened, Telemetry.within]
  have still : (Layer.pass request (.traceHandler coordinator handler)).marks.untraced = true ∨
      (Layer.pass request (.traceHandler coordinator handler)).marks.wrapper? = none := idle
  generalize Layer.pass request (.traceHandler coordinator handler) = passed at still
  rcases below passed (later.attach (Layer.place request t)) with ⟨none_ | task, after⟩
  · exact ⟨rfl, .none⟩
  · refine ⟨rfl, .some fun meanwhile polls u => ?_⟩
    obtain ⟨same, concludes⟩ := Task.drive_concludes meanwhile polls
      [.new (Layer.place request t) (Service.handlerTerminal coordinator handler passed)] task u
    have concluded := Task.concludes_single _ _ _ _ concludes
    refine ⟨same, (congrArg Telemetry.ledger concluded).trans ?_⟩
    exact conclude_idle _ coordinator handler passed still _ _

-- Requests and calls that are not traced. Under handler layers they are not left
-- alone where nobody traces them: the context that is current at a poll is kept
-- from the service below. Servers and clients do leave them alone.
theorem untraced_goes_through (request : Request) (t : Telemetry) :
    (∀ boundary : ServerBoundary, (boundary.enter request t).1 = .skipped →
        Transparent (fun below request => Service.callServer boundary request below) request t) ∧
      (∀ interceptor : ClientInterceptor, interceptor.enabled = false →
        Transparent (fun below request => Service.callClient interceptor request below) request t ∧
          ∀ send, Sends interceptor request send) ∧
      ∀ (coordinator : HandlerCoordinator) (handler : Handler),
        (request.marks.untraced = true ∨ request.marks.wrapper? = none) →
        Detains (fun below request => Service.callHandler coordinator handler request below) request t
          (Layer.place request t) :=
  ⟨fun boundary skipped => hands_back_transparent (skipping_hands_back boundary request t skipped),
    fun interceptor disabled => ⟨hands_back_transparent (disabled_hands_back interceptor request t disabled),
      fun send => disabled_sends interceptor request send disabled⟩,
    fun coordinator handler idle => holds_in_detains (idle_holds_in coordinator handler request t idle)⟩

def inJob : Telemetry := (Telemetry.start .silent false).attach (.of ⟨1, 1, true, false, .empty⟩)

def closedBoundary : ServerBoundary := { plainBoundary with enabled := false }

def muteInterceptor : ClientInterceptor := ⟨⟨none⟩, .empty, false⟩

theorem untraced_goes_through_order :
    (closedBoundary.enter order inJob).1 = .skipped ∧
      Transparent (fun below request => Service.callServer closedBoundary request below) order inJob ∧
      muteInterceptor.enabled = false ∧ Sends muteInterceptor order (watching 0 .empty true) ∧
      order.marks.wrapper? = none ∧ inJob.current = Layer.place order inJob ∧
      ¬LooksLike (fun below request => Service.callHandler plainCoordinator orders request below) order inJob
        (fun _ => .empty) (fun _ => .empty) 1 := by
  obtain ⟨servers, clients, handlers⟩ := untraced_goes_through order inJob
  have detained := (handlers plainCoordinator orders (.inr rfl)).unseen rfl (fun _ => .empty) 1
  refine ⟨rfl, servers closedBoundary rfl, rfl, (clients muteInterceptor rfl).2 _, rfl, rfl, fun looks => ?_⟩
  exact absurd (detained.mp looks 1 Nat.one_pos (Nat.le_refl 1)) (by decide)

-- A skipped request is handled below the job, and polled outside of it. The
-- service alone is polled where it is polled, and the same service under a
-- handler layer is polled below the job.
theorem handler_keeps_call_context :
    let skipped := (closedBoundary.enter order inJob).2.1
    let watch := (Service.innermost true (watching 0 .empty)).dispatch
    let outside := fun (_ : Nat) (t : Telemetry) => t.attach .empty
    skipped.marks.untraced = true ∧ Amid (fun _ => .empty) outside ∧
      outcomeOf (watch skipped inJob) outside 1 = some (some (.ok ⟨.ok, .empty, ""⟩)) ∧
      outcomeOf (Service.callHandler plainCoordinator orders skipped watch inJob) outside 1 = some none :=
  ⟨rfl, fun _ _ => rfl, rfl, rfl⟩

end RequestSpans
