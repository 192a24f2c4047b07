import RequestSpans.Proofs.Client.Call
import RequestSpans.Proofs.Comparison.Service
import RequestSpans.Scenario.Script

set_option autoImplicit false

namespace RequestSpans

def Entry.Candid : Entry → Prop
  | .called _ _ _ sight? => ∃ sight, sight? = some sight ∧ sight.current = .of sight.span
  | _ => True

structure Orderly (t t' : Telemetry) : Prop where
  ambient : t'.ambient = t.ambient
  hooks : ∃ news, t'.journal = t.journal ++ news ∧ ∀ entry ∈ news, entry.Candid

def Telemetry.CandidSince (base : List Entry) (t : Telemetry) : Prop :=
  ∃ news, t.journal = base ++ news ∧ ∀ entry ∈ news, entry.Candid

namespace Telemetry

variable {base : List Entry} {t t' : Telemetry}

theorem candid_same (candid : t.CandidSince base) (same : t'.journal = t.journal) : t'.CandidSince base := by
  obtain ⟨news, journal, all⟩ := candid
  exact ⟨news, same.trans journal, all⟩

theorem candid_more (candid : t.CandidSince base) (entry : Entry) (one : entry.Candid)
    (more : t'.journal = t.journal ++ [entry]) : t'.CandidSince base := by
  obtain ⟨news, journal, all⟩ := candid
  refine ⟨news ++ [entry], by rw [more, journal, List.append_assoc], fun other member => ?_⟩
  rcases List.mem_append.mp member with old | new
  · exact all other old
  · obtain rfl := List.mem_singleton.mp new
    exact one

theorem candid_log (candid : t.CandidSince base) (level : LogLevel) (message : String) (fields : List (String × String)) :
    (t.log level message fields).CandidSince base :=
  candid_more candid (.logged ⟨level, message, fields⟩) trivial (t.journal_log level message fields)

theorem candid_end (candid : t.CandidSince base) (span : SpanContext) : (t.endSpan span).CandidSince base := by
  cases known : t.span? span with
  | none =>
      simp only [endSpan, known]
      exact candid
  | some found =>
      by_cases stopped : found.ended = true
      · simp only [endSpan, known, stopped, if_true]
        exact candid
      · simp only [endSpan, known, stopped]
        exact candid_more candid (.ended { found with ended := true }) trivial rfl

theorem candid_run_one (candid : t.CandidSince base) (hook : Hook) (span : SpanContext) (decorator : Decorator)
    (here : t.current = .of span) : (DecoratorChain.runOne hook (some span) t decorator).CandidSince base := by
  have called : ((t.record (.called decorator.name decorator.observed hook
      (some ⟨span, t.current, t.isRecording span⟩))).act span (decorator.react hook).actions).CandidSince base :=
    candid_more candid (.called decorator.name decorator.observed hook (some ⟨span, t.current, t.isRecording span⟩))
      ⟨_, rfl, here⟩ (Telemetry.journal_act _ _ _)
  cases panic : (decorator.react hook).panic? with
  | none =>
      simp only [DecoratorChain.runOne, panic]
      exact called
  | some payload =>
      simp only [DecoratorChain.runOne, panic]
      exact candid_log called _ _ _

theorem candid_invoke (candid : t.CandidSince base) (chain : DecoratorChain) (hook : Hook) (span : SpanContext)
    (here : t.current = .of span) : (chain.invoke hook (some span) t).CandidSince base := by
  have calls : ∀ (decorators : List Decorator) (before : Telemetry), before.CandidSince base → before.current = .of span →
      (decorators.foldl (DecoratorChain.runOne hook (some span)) before).CandidSince base := by
    intro decorators
    induction decorators with
    | nil => exact fun _ candid _ => candid
    | cons decorator rest ih =>
        intro before candid here
        refine ih _ (candid_run_one candid hook span decorator here) ?_
        rw [current, DecoratorChain.ambient_run_one]
        exact here
  exact calls _ _ (candid_more candid (.round hook (some span)) trivial rfl) here

theorem candid_report (candid : t.CandidSince base) (coordinator : HandlerCoordinator) (handler : Handler) :
    (coordinator.reportMissing handler t).CandidSince base := by
  unfold HandlerCoordinator.reportMissing
  split
  · exact candid
  · have noted : ({ t with reported := coordinator.name :: t.reported } : Telemetry).CandidSince base := candid
    exact candid_log noted _ _ _

end Telemetry

def candidly : Pairing where
  World := List Entry
  rel base t u := u = t ∧ t.CandidSince base
  covers _ _ _ := True
  chains c d := d = c
  heads _ := True
  headed _ _ := trivial
  lasts _ _ := trivial
  installed := by rintro _ _ _ ⟨rfl, _⟩; rfl
  bridged := by rintro _ _ _ ⟨rfl, _⟩; rfl
  held := by rintro _ _ _ ⟨rfl, _⟩; rfl
  entered := by rintro _ _ _ ⟨rfl, _⟩; exact ⟨rfl, fun _ _ => trivial⟩
  finished := by rintro _ _ _ _ ⟨rfl, _⟩ _; rfl
  attach := by rintro _ _ _ _ ⟨rfl, candid⟩; exact ⟨rfl, candid⟩
  detach := by rintro _ _ _ ⟨rfl, candid⟩; exact ⟨rfl, candid⟩
  record := by
    rintro _ _ _ entry ⟨rfl, candid⟩ plain
    refine ⟨rfl, Telemetry.candid_more candid entry ?_ rfl⟩
    cases entry with
    | called decorator observed hook sight? => exact absurd rfl (plain decorator observed hook sight?)
    | _ => trivial
  act := by rintro _ _ _ _ _ ⟨rfl, candid⟩ _; exact ⟨rfl, Telemetry.candid_same candid (Telemetry.journal_act _ _ _)⟩
  mark := by rintro _ _ _ _ ⟨rfl, candid⟩ _; exact ⟨rfl, Telemetry.candid_same candid (Telemetry.journal_alter _ _ _)⟩
  ends := by rintro _ _ _ _ ⟨rfl, candid⟩ _; exact ⟨rfl, Telemetry.candid_end candid _⟩
  start := by
    rintro _ _ _ _ _ _ _ _ ⟨rfl, candid⟩
    exact ⟨rfl, ⟨rfl, Telemetry.candid_more candid (.started _) trivial rfl⟩, trivial⟩
  startLocal := fun _ _ _ _ _ _ _ _ _ => trivial
  enter := by rintro _ _ _ _ ⟨rfl, candid⟩ _; exact ⟨rfl, candid⟩
  exit := by rintro _ _ _ ⟨rfl, candid⟩; exact ⟨rfl, candid⟩
  report := by
    rintro _ _ _ a b handler ⟨rfl, candid⟩ _ same
    refine ⟨?_, Telemetry.candid_report candid a handler⟩
    rw [HandlerCoordinator.reportMissing, HandlerCoordinator.reportMissing, same]
  invoke := by
    rintro _ _ _ span c d hook ⟨rfl, candid⟩ _ rfl here _
    exact ⟨rfl, Telemetry.candid_invoke candid d hook span here⟩

-- Foreign code that gives the ambient contexts back, if it is run where it is
-- meant to be: work, guards, and code that hands over work.
def Work.Orderly (work : Work) : Prop := ∀ polls t, RequestSpans.Orderly t (work.poll polls t).2

def TerminalGuard.Orderly (guard : TerminalGuard) : Prop :=
  ∀ handler, guard.handler? = some handler → ∀ signal t, t.current = guard.context → RequestSpans.Orderly t (handler.fire signal t)

def HandsOver (answer : Telemetry → Option Work × Telemetry) : Prop :=
  ∀ t, Orderly t (answer t).2 ∧ ∀ work, (answer t).1 = some work → work.Orderly

inductive Task.Orderly : Task → Prop
  | leaf (work : Work) (polls : Nat) (orderly : work.Orderly) : Orderly (.leaf work polls)
  | inside (context : Context) (inner : Task) (orderly : inner.Orderly) : Orderly (.scoped context inner)
  | guarded (guard : TerminalGuard) (first : Bool) (inner : Task) (handled : guard.Orderly) (orderly : inner.Orderly) :
      Orderly (.guarded guard first inner)
  | lazyCall (interceptor : ClientInterceptor) (request : Request) (send : Request → Telemetry → Option Work × Telemetry)
      (sends : ∀ request, HandsOver (send request)) : Orderly (.lazyCall interceptor request send)
  | localized (span : LocalSpan) (inner : Task) (orderly : inner.Orderly) : Orderly (.localized span inner)

def Service.Orderly : Service → Prop
  | .innermost _ serve => ∀ ready request, HandsOver (serve ready request)
  | .traceServer _ below | .traceHandler _ _ below | .traceClient _ below | .traceLocally below => below.Orderly

section Bridge

variable {base : List Entry} {mine : List Stake} {t u t' u' : Telemetry}

theorem candidly_self (t : Telemetry) : candidly.rel t.journal t t := ⟨rfl, [], by simp, by simp⟩

theorem orderly_moves (moves : candidly.Moves t.journal t u t' u') : Orderly t t' := ⟨moves.left, moves.rel.2⟩

theorem moves_orderly (rel : candidly.rel base t t) (orderly : Orderly t t') : candidly.Moves base t t t' t' := by
  obtain ⟨ambient, news, journal, all⟩ := orderly
  obtain ⟨_, old, earlier, all_⟩ := rel
  refine ⟨⟨rfl, old ++ news, by rw [journal, earlier, List.append_assoc], fun entry member => ?_⟩, fun _ _ => trivial,
    ambient, ambient⟩
  exact (List.mem_append.mp member).elim (all_ entry) (all entry)

theorem candidly_covers (w : candidly.World) (t : Telemetry) : candidly.Covers w t mine := fun _ _ => trivial

theorem works_orderly {work : Work} (orderly : work.Orderly) : candidly.Works mine work work := by
  rintro w t u polls ⟨rfl, candid⟩ _ _
  exact ⟨rfl, moves_orderly ⟨rfl, candid⟩ (orderly polls u)⟩

theorem orderly_works {a b : Work} (works : candidly.Works mine a b) : a.Orderly :=
  fun polls t => orderly_moves (works polls (candidly_self t) (candidly_covers _ t) rfl).2

theorem guards_orderly {guard : TerminalGuard} (orderly : guard.Orderly) : candidly.Guards mine guard guard := by
  obtain ⟨context, none_ | handler⟩ := guard
  · exact .spent context
  · refine .armed context handler handler ⟨rfl, ?_⟩
    rintro w t u signal ⟨rfl, candid⟩ _ here _
    exact moves_orderly ⟨rfl, candid⟩ (orderly handler rfl signal u here)

theorem orderly_guards {g h : TerminalGuard} (guards : candidly.Guards mine g h) : g.Orderly := by
  cases guards with
  | spent context => exact fun handler held => by contradiction
  | armed context a b alike =>
      rintro handler ⟨⟩ signal t here
      exact orderly_moves (alike.fires signal (candidly_self t) (candidly_covers _ t) here here)

theorem hands_over {answer : Telemetry → Option Work × Telemetry} (orderly : HandsOver answer) (rel : candidly.rel base t t) :
    candidly.Hands base t t (answer t) (answer t) [] := by
  obtain ⟨after, works⟩ := orderly t
  refine ⟨?_, moves_orderly rel after, fun _ _ => trivial⟩
  rcases answered : (answer t).1 with none_ | work
  · exact .none
  · exact .some (works_orderly (works work answered))

theorem over_hands {answer : Telemetry → Option Work × Telemetry} (other : Telemetry → Option Work × Telemetry)
    (hands : ∀ t, ∃ stakes, candidly.Hands t.journal t t (answer t) (other t) stakes) : HandsOver answer := by
  intro t
  obtain ⟨stakes, works, moves, _⟩ := hands t
  refine ⟨orderly_moves moves, fun work answered => ?_⟩
  rw [answered] at works
  generalize (other t).1 = work?' at works
  cases works with
  | some alike => exact orderly_works alike

theorem tasks_orderly {task : Task} (orderly : task.Orderly) : ∃ mine, candidly.Tasks mine task task := by
  induction orderly with
  | leaf work polls orderly => exact ⟨[], .leaf work work polls (works_orderly orderly)⟩
  | inside context inner orderly ih =>
      obtain ⟨mine, alike⟩ := ih
      exact ⟨mine, .inside context inner inner alike⟩
  | guarded guard first inner handled orderly ih =>
      obtain ⟨mine, alike⟩ := ih
      exact ⟨mine, .guarded guard guard first inner inner (guards_orderly handled) alike⟩
  | lazyCall interceptor request send sends =>
      refine ⟨request.stakes, .lazyCall _ _ request send send ⟨_, rfl, rfl⟩ (fun span => List.mem_map_of_mem) ?_⟩
      rintro w t u sent ⟨rfl, candid⟩ _ _ _
      exact ⟨[], hands_over (sends sent) ⟨rfl, candid⟩⟩
  | localized span inner orderly ih =>
      obtain ⟨mine, alike⟩ := ih
      exact ⟨span.stakes ++ mine, .localized span inner inner trivial (List.subset_append_left _ _)
        (Pairing.tasks_more alike (List.subset_append_right _ _))⟩

theorem orderly_tasks {a b : Task} (alike : candidly.Tasks mine a b) : a.Orderly := by
  induction alike with
  | leaf a b polls works => exact .leaf a polls (orderly_works works)
  | inside context a b inner ih => exact .inside context a ih
  | guarded g h first a b guards inner ih => exact .guarded g first a (orderly_guards guards) ih
  | lazyCall i j request send other alike held sends =>
      refine .lazyCall i request send fun sent => over_hands (other sent) fun t => ?_
      exact sends sent (candidly_self t) (candidly_covers _ t) (fun _ _ => trivial) rfl
  | localized span a b headed held inner ih => exact .localized span a ih

theorem rest_orderly {a b : Polled} (results : candidly.Results mine a b) (rest : Task) (pending : a = .pending rest) :
    rest.Orderly := by
  cases results with
  | pending a b alike =>
      obtain rfl := Polled.pending.inj pending
      exact orderly_tasks alike
  | ready outcome => contradiction
  | panicked => contradiction

theorem some_orderly {a? b? : Option Task} (tasks : Option.Rel (candidly.Tasks mine) a? b?) (task : Task)
    (answered : a? = some task) : task.Orderly := by
  cases tasks with
  | none => contradiction
  | some alike =>
      obtain rfl := Option.some.inj answered
      exact orderly_tasks alike

theorem services_orderly {service : Service} (orderly : service.Orderly) :
    candidly.Services [.localSpans] service service := by
  induction service with
  | innermost ready serve =>
      refine .innermost ready serve serve ?_
      rintro w t u ready request ⟨rfl, candid⟩ _ _ _
      exact ⟨[], hands_over (orderly ready request) ⟨rfl, candid⟩⟩
  | traceServer boundary below ih => exact .traceServer _ _ _ _ ⟨_, rfl, rfl⟩ (ih orderly)
  | traceHandler coordinator handler below ih => exact .traceHandler _ _ handler _ _ ⟨_, rfl, rfl⟩ (ih orderly)
  | traceClient interceptor below ih => exact .traceClient _ _ _ _ ⟨_, rfl, rfl⟩ (ih orderly)
  | traceLocally below ih => exact .traceLocally _ _ List.mem_cons_self (ih orderly)

end Bridge

def SameIn {α : Type} (context : Context) (a b : Telemetry → α) : Prop := ∀ t, t.current = context → a t = b t

section Congruence

variable (t : Telemetry)

theorem within_same {α : Type} {a b : Telemetry → α × Telemetry} (context : Context) (same : SameIn context a b) :
    t.within context a = t.within context b := by
  rw [Telemetry.within, Telemetry.within, same (t.attach context) rfl]

theorem signal_same (context : Context) (a b : Terminal) (signal : Signal) (same : SameIn context (a.fire signal) (b.fire signal)) :
    ((TerminalGuard.new context a).signal signal t).2.2 = ((TerminalGuard.new context b).signal signal t).2.2 := by
  have fired : SameIn context (fun t => ((), a.fire signal t)) (fun t => ((), b.fire signal t)) :=
    fun t here => congrArg (Prod.mk ()) (same t here)
  exact congrArg (fun r : Unit × Telemetry => r.2) (within_same t context fired)

theorem poll_same (guard : TerminalGuard) (first : Bool) (inner other : Task) (same : SameIn guard.context inner.poll other.poll) :
    (Task.guarded guard first inner).poll t = (Task.guarded guard first other).poll t := by
  rw [Task.poll, Task.poll, within_same t guard.context same]

end Congruence

inductive LeafPoll (guards : List TerminalGuard) (a b : Work) (polls : Nat) (t : Telemetry) : Prop
  | goesOn (later : Telemetry)
      (left : (Task.guardedBy guards (.leaf a polls)).poll t = (.pending (Task.guardedBy guards (.leaf a (polls + 1))), later))
      (right : (Task.guardedBy guards (.leaf b polls)).poll t = (.pending (Task.guardedBy guards (.leaf b (polls + 1))), later)) :
      LeafPoll guards a b polls t
  | resolves (outcome? : Option Outcome) (later : Telemetry)
      (left : (Task.guardedBy guards (.leaf a polls)).poll t = (.resolved outcome?, later))
      (right : (Task.guardedBy guards (.leaf b polls)).poll t = (.resolved outcome?, later)) : LeafPoll guards a b polls t

theorem leaf_same (outer : List TerminalGuard) (guard : TerminalGuard) (a b : Work)
    (same : ∀ polls, SameIn guard.context (a.poll polls) (b.poll polls)) (polls : Nat) (t : Telemetry) :
    LeafPoll (outer ++ [guard]) a b polls t := by
  induction outer generalizing t with
  | nil =>
      have agree := same polls (t.attach guard.context) rfl
      rcases polled : b.poll polls (t.attach guard.context) with ⟨progress, later⟩
      rw [polled] at agree
      cases progress with
      | pending =>
          refine .goesOn later.detach ?_ ?_ <;>
            simp only [List.nil_append, Task.guardedBy, Task.poll, Task.pollWork, Telemetry.within, polled, agree, Task.settle]
      | ready outcome =>
          refine .resolves (some outcome) (guard.conclude (some outcome) later.detach) ?_ ?_ <;>
            simp only [List.nil_append, Task.guardedBy, Task.poll, Task.pollWork, Telemetry.within, polled, agree,
              Task.settle, Polled.resolved, TerminalGuard.conclude]
      | panicked =>
          refine .resolves none (guard.conclude none later.detach) ?_ ?_ <;>
            simp only [List.nil_append, Task.guardedBy, Task.poll, Task.pollWork, Telemetry.within, polled, agree,
              Task.settle, Polled.resolved, TerminalGuard.conclude]
  | cons first rest ih =>
      cases ih (t.attach first.context) with
      | goesOn later left right =>
          exact .goesOn later.detach (Task.poll_guarded first false _ t _ _ left) (Task.poll_guarded first false _ t _ _ right)
      | resolves outcome? later left right =>
          refine .resolves outcome? (first.conclude outcome? later.detach) ?_ ?_
          · exact (Task.poll_guarded first false _ t _ _ left).trans (Task.settle_over first outcome? _)
          · exact (Task.poll_guarded first false _ t _ _ right).trans (Task.settle_over first outcome? _)

theorem drop_same (outer : List TerminalGuard) (a b : Work) (polls : Nat) (t : Telemetry) :
    (Task.guardedBy outer (.leaf a polls)).drop t = (Task.guardedBy outer (.leaf b polls)).drop t := by
  induction outer generalizing t with
  | nil => rfl
  | cons first rest ih => simp only [Task.guardedBy, Task.drop, Bool.false_eq_true, if_false, ih]

-- By induction on the polls that are left: at each of them the work finds the
-- context of the innermost guard, whatever the rest of the process attaches in
-- between.
theorem drive_same (outer : List TerminalGuard) (guard : TerminalGuard) (a b : Work)
    (same : ∀ polls, SameIn guard.context (a.poll polls) (b.poll polls)) (meanwhile : Nat → Telemetry → Telemetry)
    (left polls : Nat) (t : Telemetry) :
    (Task.guardedBy (outer ++ [guard]) (.leaf a polls)).drive meanwhile left t =
      (Task.guardedBy (outer ++ [guard]) (.leaf b polls)).drive meanwhile left t := by
  induction left generalizing polls t with
  | zero => simp only [Task.drive, drop_same (outer ++ [guard]) a b polls]
  | succ left ih =>
      cases leaf_same outer guard a b same polls (meanwhile (left + 1) t) with
      | goesOn later first second =>
          rw [Task.drive_pending _ _ _ _ _ _ first, Task.drive_pending _ _ _ _ _ _ second]
          exact ih (polls + 1) later
      | resolves outcome? later first second => rw [Task.drive_over _ _ _ _ _ _ first, Task.drive_over _ _ _ _ _ _ second]

theorem execute_same (interceptor : ClientInterceptor) (request : Request) (t opened : Telemetry) (call : ActiveCall)
    (send other : Request → Telemetry → Option Outcome × Telemetry) (starts : interceptor.Starts request t call opened)
    (same : SameIn (.of call.span) (send call.request) (other call.request)) :
    interceptor.execute request send t = interceptor.execute request other t := by
  simp only [ClientInterceptor.execute, starts.started, ClientCall.context, within_same opened _ same]

def SameAnswers (context : Context) (a b : Telemetry → Option Work × Telemetry) : Prop :=
  ∀ t, t.current = context → (a t).2 = (b t).2 ∧
    Option.Rel (fun x y : Work => ∀ polls, SameIn context (x.poll polls) (y.poll polls)) (a t).1 (b t).1

theorem exchange_same (interceptor : ClientInterceptor) (request : Request) (earlier opened : Telemetry) (call : ActiveCall)
    (send other : Request → Telemetry → Option Work × Telemetry) (meanwhile : Nat → Telemetry → Telemetry) (polls : Nat)
    (starts : interceptor.Starts request (meanwhile (polls + 1) earlier) call opened)
    (same : SameAnswers (.of call.span) (send call.request) (other call.request)) :
    (Task.lazyCall interceptor request send).drive meanwhile (polls + 1) earlier =
      (Task.lazyCall interceptor request other).drive meanwhile (polls + 1) earlier := by
  obtain ⟨after, works⟩ := same (opened.attach (.of call.span)) rfl
  rcases sent : send call.request (opened.attach (.of call.span)) with ⟨work?, later⟩
  rcases sent' : other call.request (opened.attach (.of call.span)) with ⟨work?', later'⟩
  rw [sent, sent'] at after works
  obtain rfl : later = later' := after
  cases works with
  | none => simp only [Task.drive, Task.poll, Task.pollCall, starts.started, Telemetry.within, ClientCall.context, sent, sent']
  | some alike =>
      rw [interceptor.drive_call request call earlier opened later send _ meanwhile polls starts sent,
        interceptor.drive_call request call earlier opened later other _ meanwhile polls starts sent']
      exact drive_same [] call.guard _ _ alike _ (polls + 1) 0 later.detach

-- What gives the ambient contexts back, and shows every hook its span: all that
-- happens to requests, calls, guards and tasks.
structure GivesBack (t : Telemetry) : Prop where
  operation : ∀ (operation : Operation) (request : Request), Orderly t (operation.apply request t).2
  start : ∀ (interceptor : ClientInterceptor) (request : Request), Orderly t (interceptor.start request t).2.2
  complete : ∀ (call : ClientCall) (outcome : Outcome), Orderly t (call.complete outcome t).2
  dropCall : ∀ call : ClientCall, Orderly t (call.drop t)
  execute : ∀ (interceptor : ClientInterceptor) (request : Request) (send : Request → Telemetry → Option Outcome × Telemetry),
    (∀ request t, Orderly t (send request t).2) → Orderly t (interceptor.execute request send t).2
  signal : ∀ (guard : TerminalGuard) (signal : Signal), guard.Orderly → Orderly t (guard.signal signal t).2.2
  dropGuard : ∀ guard : TerminalGuard, guard.Orderly → Orderly t (guard.drop t)
  call : ∀ (service : Service) (request : Request), service.Orderly →
    Orderly t (service.dispatch request t).2 ∧ ∀ task, (service.dispatch request t).1 = some task → task.Orderly
  poll : ∀ task : Task, task.Orderly → Orderly t (task.poll t).2 ∧ ∀ rest, (task.poll t).1 = .pending rest → rest.Orderly
  drop : ∀ task : Task, task.Orderly → Orderly t (task.drop t)

-- Where foreign code is run. Other code that does the same in the one context
-- does the same altogether, so it is run nowhere else: senders and the work that
-- they hand over in the context of the call; the handler of a guard, and the
-- task under it, in the context of the guard; the work under many guards in that
-- of the innermost, at every poll of any schedule.
structure RunsInside (t : Telemetry) : Prop where
  execute : ∀ (interceptor : ClientInterceptor) (request : Request) (call : ActiveCall) (opened : Telemetry)
    (send other : Request → Telemetry → Option Outcome × Telemetry), interceptor.Starts request t call opened →
    SameIn (.of call.span) (send call.request) (other call.request) →
    interceptor.execute request send t = interceptor.execute request other t
  exchange : ∀ (interceptor : ClientInterceptor) (request : Request) (call : ActiveCall) (earlier opened : Telemetry)
    (send other : Request → Telemetry → Option Work × Telemetry) (meanwhile : Nat → Telemetry → Telemetry) (polls : Nat),
    meanwhile (polls + 1) earlier = t → interceptor.Starts request t call opened →
    SameAnswers (.of call.span) (send call.request) (other call.request) →
    (Task.lazyCall interceptor request send).drive meanwhile (polls + 1) earlier =
      (Task.lazyCall interceptor request other).drive meanwhile (polls + 1) earlier
  signal : ∀ (context : Context) (a b : Terminal) (signal : Signal), SameIn context (a.fire signal) (b.fire signal) →
    ((TerminalGuard.new context a).signal signal t).2.2 = ((TerminalGuard.new context b).signal signal t).2.2
  poll : ∀ (guard : TerminalGuard) (first : Bool) (inner other : Task), SameIn guard.context inner.poll other.poll →
    (Task.guarded guard first inner).poll t = (Task.guarded guard first other).poll t
  drive : ∀ (outer : List TerminalGuard) (guard : TerminalGuard) (work other : Work)
    (meanwhile : Nat → Telemetry → Telemetry) (polls : Nat),
    (∀ polls, SameIn guard.context (work.poll polls) (other.poll polls)) →
    (Task.guardedBy (outer ++ [guard]) (.ofWork work)).drive meanwhile polls t =
      (Task.guardedBy (outer ++ [guard]) (.ofWork other)).drive meanwhile polls t

theorem gives_back (t : Telemetry) : GivesBack t := by
  have self := candidly_self t
  have interceptors : ∀ i : ClientInterceptor, candidly.interceptors i i := fun _ => ⟨_, rfl, rfl⟩
  have calls : ∀ call : ClientCall, candidly.Calls call call := by
    rintro ⟨none_ | active⟩
    · exact .untraced
    · exact .traced active active ⟨_, rfl, rfl⟩
  constructor
  case operation =>
    intro operation request
    have ready : candidly.Ready t.journal operation request t t := by
      cases operation <;> first | exact fun _ _ => rfl | exact fun _ => trivial | trivial
    exact orderly_moves (Pairing.moves_operation (fun _ => rfl) operation self (fun _ _ => trivial) ready).2.1
  case start =>
    intro interceptor request
    obtain ⟨_, _, _, moves, _⟩ := Pairing.moves_call_start request (interceptors interceptor) self fun _ => rfl
    exact orderly_moves moves
  case complete =>
    exact fun call outcome => orderly_moves (Pairing.moves_call_complete (calls call) outcome self (candidly_covers _ t)).2
  case dropCall => exact fun call => orderly_moves (Pairing.moves_call_drop (calls call) self (candidly_covers _ t))
  case execute =>
    intro interceptor request send orderly
    have replies : candidly.Replies [] send send := by
      rintro w t u request ⟨rfl, candid⟩ _ _ _
      exact ⟨rfl, moves_orderly ⟨rfl, candid⟩ (orderly request u)⟩
    exact orderly_moves (Pairing.moves_execute (interceptors interceptor) replies self (candidly_covers _ t)
      (fun _ _ => trivial) rfl).2
  case signal =>
    intro guard signal orderly
    have handled : candidly.Guards [] guard guard := guards_orderly orderly
    exact orderly_moves (Pairing.moves_signal signal handled self (candidly_covers _ t)).2.2
  case dropGuard =>
    intro guard orderly
    have handled : candidly.Guards [] guard guard := guards_orderly orderly
    exact orderly_moves (Pairing.moves_guard_drop handled self (candidly_covers _ t))
  case call =>
    intro service request orderly
    obtain ⟨stakes, tasks, moves, _⟩ := Pairing.moves_dispatch (services_orderly orderly) request self (candidly_covers _ t)
      (fun _ _ => trivial) (fun _ _ => trivial) fun _ => rfl
    exact ⟨orderly_moves moves, some_orderly tasks⟩
  case poll =>
    intro task orderly
    obtain ⟨mine, alike⟩ := tasks_orderly orderly
    obtain ⟨stakes, _, results, moves, _⟩ := Pairing.moves_poll alike self (candidly_covers _ t) fun _ => rfl
    exact ⟨orderly_moves moves, rest_orderly results⟩
  case drop =>
    intro task orderly
    obtain ⟨mine, alike⟩ := tasks_orderly orderly
    exact orderly_moves (Pairing.moves_drop alike self (candidly_covers _ t))

theorem runs_inside (t : Telemetry) : RunsInside t where
  execute := fun interceptor request call opened send other starts same =>
    execute_same interceptor request t opened call send other starts same
  exchange := by
    rintro interceptor request call earlier opened send other meanwhile polls rfl starts same
    exact exchange_same interceptor request earlier opened call send other meanwhile polls starts same
  signal := fun context a b signal same => signal_same t context a b signal same
  poll := fun guard first inner other same => poll_same t guard first inner other same
  drive := fun outer guard work other meanwhile polls same => drive_same outer guard work other same meanwhile polls 0 t

theorem contexts_are_stacked (t : Telemetry) : GivesBack t ∧ RunsInside t := ⟨gives_back t, runs_inside t⟩

def busy : Telemetry := (Telemetry.start .silent false).attach (.of ⟨7, 3, true, false, .empty⟩)

def watched : TerminalGuard := .new (.of ⟨2, 1, true, false, .empty⟩) (Scenario.recorder "watch")

def heedless : Terminal := ⟨fun signal t => t.record (.terminated "watch" signal watched.context), []⟩

def done : Task := .ofWork ⟨fun _ t => (.ready (.error ⟨"refused", []⟩), t)⟩

theorem contexts_are_stacked_guarded :
    watched.Orderly ∧ (Task.guarded watched false done).Orderly ∧
      SameIn watched.context ((Scenario.recorder "watch").fire .cancelled) (heedless.fire .cancelled) ∧
      Orderly busy ((Task.guarded watched false done).poll busy).2 ∧
      (watched.signal .cancelled busy).2.2 = ((TerminalGuard.new watched.context heedless).signal .cancelled busy).2.2 := by
  have handled : watched.Orderly := by
    rintro handler ⟨⟩ signal t here
    exact ⟨rfl, [.terminated "watch" signal t.current], rfl, by simp [Entry.Candid]⟩
  have orderly : (Task.guarded watched false done).Orderly :=
    .guarded _ _ _ handled (.leaf _ _ fun _ t => ⟨rfl, [], by simp, by simp⟩)
  have same : SameIn watched.context ((Scenario.recorder "watch").fire .cancelled) (heedless.fire .cancelled) := by
    intro t here
    simp only [Scenario.recorder, heedless, here]
  obtain ⟨givesBack, runsInside⟩ := contexts_are_stacked busy
  exact ⟨handled, orderly, same, (givesBack.poll _ orderly).1, runsInside.signal _ _ _ _ same⟩

end RequestSpans
