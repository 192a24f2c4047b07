import RequestSpans.Proofs.Comparison.Scripts
import RequestSpans.Proofs.Members.Apart

set_option autoImplicit false

namespace RequestSpans

-- Code that members bring along is to leave the others alone, and not to mind
-- whether they are there.
def Service.Insular : Service → Prop
  | .innermost _ serve => apart.Serves [] serve serve
  | .traceServer _ below => below.Insular
  | .traceHandler _ _ below => below.Insular
  | .traceClient _ below => below.Insular
  | .traceLocally below => below.Insular

section Scripted

open Scenario

variable {mine : List Stake} (interceptor : ClientInterceptor)

theorem moves_hold {d : Division} {t u : Telemetry} (spans : List SpanContext) (same : d.Compares t u) :
    apart.Moves d t u (t.hold spans) (u.hold spans) := by
  refine Pairing.moves_growing (Division.compares_same same ?_ rfl rfl) (Telemetry.grows_same t _ rfl) rfl rfl
  refine Division.parallel_same same.parallel ?_ rfl rfl rfl fun _ member => member
  exact congrArg (fun common : Telemetry => common.hold spans) same.parallel.common

theorem secures_fresh {w : Division} {t : Telemetry} {request : Request} (fresh : request.marks.spans = []) :
    apart.Secures w t request := fun span member => by simp [fresh] at member

theorem work_insular (script : WorkScript) (fresh : ∀ request, script.outbound? = some request → request.marks.spans = []) :
    apart.Works mine (script.work interceptor) (script.work interceptor) :=
  Pairing.works_script ⟨_, rfl, rfl⟩ script fun _ _ request outbound => secures_fresh (fresh request outbound)

theorem serve_insular (script : ServiceScript)
    (fresh : ∀ request, script.work.outbound? = some request → request.marks.spans = []) :
    apart.Serves mine (script.serve interceptor) (script.serve interceptor) :=
  Pairing.serves_script ⟨_, rfl, rfl⟩ script (fun _ _ request outbound => secures_fresh (fresh request outbound))
    fun _ _ _ spans same => moves_hold spans same

end Scripted

namespace Members

def Move.Insular : Move → Prop
  | .dispatch service => service.Insular
  | .execute _ send => apart.Replies [] send send
  | .exchange _ send => apart.Sends [] send send
  | .instrument work => apart.Works [] work work
  | .propagate context terminal => apart.Terminals [] context terminal terminal
  | _ => True

inductive Twins (mine : List Stake) : Member → Member → Prop
  | asked (request : Request) (held : request.stakes ⊆ mine) : Twins mine (.asked request) (.asked request)
  | calling (a b : ClientCall) (calls : apart.Calls a b) (held : a.stakes ⊆ mine) : Twins mine (.calling a) (.calling b)
  | running (a b : Task) (tasks : apart.Tasks mine a b) : Twins mine (.running a) (.running b)
  | done : Twins mine .done .done

structure Steps (d : Division) (t u : Telemetry) (a b : Step) (stakes : List Stake) : Prop where
  reply : a.reply = b.reply
  twins : Twins stakes a.member b.member
  moves : apart.Moves d t u a.telemetry b.telemetry
  covered : apart.Covers d a.telemetry stakes

def Member.Suits : Member → Move → Bool → Prop
  | .asked request, .operate operation, plain => operation.handler?.isSome = true → request.entered = false → plain = true
  | .asked request, .dispatch service, plain =>
      (service.opensLocally = true → plain = false) ∧ (service.handlesFirst = true → request.entered = false → plain = true)
  | _, _, _ => True

theorem meets_suits (member : Member) (move : Move) (meets : member.meets move = true) : ∃ plain, member.Suits move plain := by
  cases member with
  | asked request =>
      cases move with
      | operate operation => exact ⟨true, fun _ _ => rfl⟩
      | dispatch service =>
          refine ⟨!service.opensLocally, by simp, fun first unentered => ?_⟩
          simpa [Member.meets, first, unentered] using meets
      | _ => exact ⟨true, trivial⟩
  | _ => exact ⟨true, trivial⟩

theorem apart_alike (chain : DecoratorChain) : apart.chains chain chain := rfl

theorem services_insular {mine : List Stake} (service : Service) (insular : service.Insular)
    (allowed : service.opensLocally = true → .localSpans ∈ mine) : apart.Services mine service service := by
  induction service with
  | innermost ready serve =>
      exact .innermost ready serve serve fun _ _ _ ready request rel _ => insular ready request rel Pairing.covers_none
  | traceServer boundary below ih => exact .traceServer _ _ _ _ ⟨_, rfl, rfl⟩ (ih insular allowed)
  | traceHandler coordinator handler below ih => exact .traceHandler _ _ handler _ _ ⟨_, rfl, rfl⟩ (ih insular allowed)
  | traceClient interceptor below ih => exact .traceClient _ _ _ _ ⟨_, rfl, rfl⟩ (ih insular allowed)
  | traceLocally below ih => exact .traceLocally _ _ (allowed rfl) (ih insular fun _ => allowed rfl)

section Steps

variable {d : Division} {t u : Telemetry} {mine stakes : List Stake}

theorem steps_idle {m n : Member} (twins : Twins mine m n) (same : d.Compares t u) (covered : apart.Covers d t mine)
    (reply : Reply) : Steps d t u ⟨reply, m, t⟩ ⟨reply, n, u⟩ mine := ⟨rfl, twins, Pairing.moves_self same, covered⟩

theorem operated_steps {admission? other? : Option Admission} {left right : Request × Telemetry} (same : admission? = other?)
    (travels : left.1 = right.1) (moves : apart.Moves d t u left.2 right.2) (covered : apart.Covers d left.2 left.1.stakes) :
    Steps d t u (.ofOperation admission? left) (.ofOperation other? right) left.1.stakes := by
  obtain ⟨next, later⟩ := left
  obtain ⟨next', later'⟩ := right
  obtain rfl : next = next' := travels
  subst same
  exact ⟨rfl, .asked next fun _ member => member, moves, covered⟩

theorem dispatched_steps {a b : Option Task × Telemetry} (dispatches : apart.Dispatches d t u a b stakes) :
    Steps d t u (.ofDispatch a) (.ofDispatch b) stakes := by
  obtain ⟨task?, later⟩ := a
  obtain ⟨task?', later'⟩ := b
  obtain ⟨tasks, moves, covered⟩ := dispatches
  cases tasks with
  | none => exact ⟨rfl, .done, moves, covered⟩
  | some alike => exact ⟨rfl, .running _ _ alike, moves, covered⟩

theorem executed_steps {a b : Option Outcome × Telemetry} (replied : a.1 = b.1) (moves : apart.Moves d t u a.2 b.2) :
    Steps d t u (.ofExecution a) (.ofExecution b) [] := by
  obtain ⟨outcome?, later⟩ := a
  obtain ⟨outcome?', later'⟩ := b
  obtain rfl : outcome? = outcome?' := replied
  cases outcome? with
  | none => exact ⟨rfl, .done, moves, Pairing.covers_none⟩
  | some outcome => exact ⟨rfl, .done, moves, Pairing.covers_none⟩

theorem polled_steps {a b : Polled × Telemetry} (polls : apart.Polls d t u a b stakes) :
    Steps d t u (.ofPoll a) (.ofPoll b) stakes := by
  obtain ⟨result, later⟩ := a
  obtain ⟨result', later'⟩ := b
  obtain ⟨results, moves, covered⟩ := polls
  cases results with
  | pending a b rest => exact ⟨rfl, .running a b rest, moves, covered⟩
  | ready outcome => exact ⟨rfl, .done, moves, covered⟩
  | panicked => exact ⟨rfl, .done, moves, covered⟩

theorem secures_held {request : Request} (held : request.stakes ⊆ mine) (covered : apart.Covers d t mine) :
    apart.Secures d t request := fun _ member => covered _ (held (List.mem_map_of_mem member))

theorem operated_admission (operation : Operation) {request : Request} (same : d.Compares t u)
    (secure : apart.Secures d t request) (ready : apart.Ready d operation request t u) :
    operation.admission? request t = operation.admission? request u := by
  cases operation with
  | enter boundary => exact congrArg some (Pairing.moves_enter ⟨_, rfl, rfl⟩ same secure ready).1
  | _ => rfl

theorem steps_operate (operation : Operation) {request : Request} (same : d.Compares t u) (secure : apart.Secures d t request)
    (suits : (Member.asked request).Suits (.operate operation) d.plain)
    (here : (Member.asked request).opens (.operate operation) = true → t.current = u.current) :
    ∃ stakes, Steps d t u (Member.stepAsked request (.operate operation) t)
      (Member.stepAsked request (.operate operation) u) stakes := by
  have ready : apart.Ready d operation request t u := by
    cases operation with
    | enter boundary =>
        intro unentered traced
        exact here (by simp [Member.opens, unentered, traced])
    | preHandle coordinator handler => exact suits rfl
    | asyncStarted coordinator handler => exact suits rfl
    | afterCompletion coordinator response? handler fault? => exact suits rfl
    | _ => trivial
  obtain ⟨travels, moves, secured⟩ := Pairing.moves_operation apart_alike operation same secure ready
  exact ⟨_, operated_steps (operated_admission operation same secure ready) travels moves (Pairing.secures_stakes secured)⟩

theorem steps_dispatch (service : Service) {request : Request} (same : d.Compares t u) (secure : apart.Secures d t request)
    (suits : (Member.asked request).Suits (.dispatch service) d.plain) (insular : service.Insular)
    (here : service.exposes request = true → t.current = u.current) :
    ∃ stakes, Steps d t u (Member.stepAsked request (.dispatch service) t)
      (Member.stepAsked request (.dispatch service) u) stakes := by
  obtain ⟨locally, first⟩ := suits
  have services : apart.Services (if service.opensLocally then [.localSpans] else []) service service :=
    services_insular service insular fun opens => by simp [opens]
  have allowed : apart.Covers d t (if service.opensLocally then [.localSpans] else []) := by
    cases opens : service.opensLocally with
    | false => exact Pairing.covers_none
    | true =>
        intro stake member
        obtain rfl := List.mem_singleton.mp member
        exact locally opens
  obtain ⟨stakes, dispatches⟩ := Pairing.moves_dispatch services request same allowed secure first here
  exact ⟨stakes, dispatched_steps dispatches⟩

theorem steps_start (interceptor : ClientInterceptor) {request : Request} (same : d.Compares t u)
    (here : interceptor.enabled = true → t.current = u.current) :
    ∃ stakes, Steps d t u (Member.stepAsked request (.start interceptor) t)
      (Member.stepAsked request (.start interceptor) u) stakes := by
  have alike : apart.interceptors interceptor interceptor := ⟨_, rfl, rfl⟩
  obtain ⟨sent, _, calls, moves, covered⟩ := Pairing.moves_call_start request alike same here
  change ∃ stakes, Steps d t u (.ofStart (interceptor.start request t)) (.ofStart (interceptor.start request u)) stakes
  refine ⟨(interceptor.start request t).2.1.stakes, ?_, .calling _ _ calls fun _ member => member, moves, covered⟩
  rw [Step.ofStart, Step.ofStart, sent, Pairing.calls_traced calls]

theorem steps_execute (interceptor : ClientInterceptor) (send : Request → Telemetry → Option Outcome × Telemetry)
    {request : Request} (same : d.Compares t u) (secure : apart.Secures d t request) (insular : apart.Replies [] send send)
    (here : t.current = u.current) :
    ∃ stakes, Steps d t u (Member.stepAsked request (.execute interceptor send) t)
      (Member.stepAsked request (.execute interceptor send) u) stakes := by
  obtain ⟨replied, moves⟩ := Pairing.moves_execute ⟨_, rfl, rfl⟩ insular same Pairing.covers_none secure here
  exact ⟨[], executed_steps replied moves⟩

theorem steps_asked {request : Request} (held : request.stakes ⊆ mine) (move : Move) (same : d.Compares t u)
    (covered : apart.Covers d t mine) (insular : move.Insular) (suits : (Member.asked request).Suits move d.plain)
    (here : (Member.asked request).opens move = true → t.current = u.current) :
    ∃ stakes, Steps d t u (Member.stepAsked request move t) (Member.stepAsked request move u) stakes := by
  have secure := secures_held held covered
  cases move with
  | operate operation => exact steps_operate operation same secure suits here
  | dispatch service => exact steps_dispatch service same secure suits insular here
  | start interceptor => exact steps_start interceptor same here
  | execute interceptor send => exact steps_execute interceptor send same secure insular (here rfl)
  | exchange interceptor send =>
      have sends : apart.Tasks mine (.lazyCall interceptor request send) (.lazyCall interceptor request send) :=
        .lazyCall _ _ request send send ⟨_, rfl, rfl⟩ (fun _ member => held (List.mem_map_of_mem member))
          (Pairing.sends_more insular (List.nil_subset mine))
      exact ⟨mine, steps_idle (.running _ _ sends) same covered .deferred⟩
  | _ => exact ⟨mine, steps_idle (.asked request held) same covered .idle⟩

theorem steps_calling {a b : ClientCall} (calls : apart.Calls a b) (held : a.stakes ⊆ mine) (move : Move) (same : d.Compares t u)
    (covered : apart.Covers d t mine) (insular : move.Insular) :
    ∃ stakes, Steps d t u (Member.stepCalling a move t) (Member.stepCalling b move u) stakes := by
  have own : apart.Covers d t a.stakes := fun stake member => covered stake (held member)
  cases move with
  | complete outcome =>
      obtain ⟨replied, moves⟩ := Pairing.moves_call_complete calls outcome same own
      refine ⟨[], ?_, .done, moves, Pairing.covers_none⟩
      exact congrArg Reply.replied replied
  | instrument work =>
      have tasks := Pairing.tasks_instrument calls held
        (.leaf work work 0 (Pairing.works_more insular (List.nil_subset mine)))
      exact ⟨mine, steps_idle (.running _ _ tasks) same covered .deferred⟩
  | drop => exact ⟨[], rfl, .done, Pairing.moves_call_drop calls same own, Pairing.covers_none⟩
  | _ => exact ⟨mine, steps_idle (.calling a b calls held) same covered .idle⟩

theorem steps_running {a b : Task} (alike : apart.Tasks mine a b) (move : Move) (same : d.Compares t u)
    (covered : apart.Covers d t mine) (insular : move.Insular)
    (here : (Member.running a).opens move = true → t.current = u.current) :
    ∃ stakes, Steps d t u (Member.stepRunning a move t) (Member.stepRunning b move u) stakes := by
  cases move with
  | scope context => exact ⟨mine, steps_idle (.running _ _ (.inside context a b alike)) same covered .deferred⟩
  | propagate context terminal =>
      have guards : apart.Guards mine (.new context terminal) (.new context terminal) :=
        .armed context terminal terminal (Pairing.terminals_more insular (List.nil_subset mine))
      exact ⟨mine, steps_idle (.running _ _ (.guarded _ _ false a b guards alike)) same covered .deferred⟩
  | poll =>
      obtain ⟨stakes, _, polls⟩ := Pairing.moves_poll alike same covered here
      exact ⟨stakes, polled_steps polls⟩
  | drop => exact ⟨[], rfl, .done, Pairing.moves_drop alike same covered, Pairing.covers_none⟩
  | _ => exact ⟨mine, steps_idle (.running a b alike) same covered .idle⟩

-- By cases on what the member is at the time. Only where it opens something is
-- it asked for the ambient contexts.
theorem steps_twins {m n : Member} (twins : Twins mine m n) (move : Move) (same : d.Compares t u)
    (covered : apart.Covers d t mine) (insular : move.Insular) (suits : m.Suits move d.plain)
    (here : m.opens move = true → t.current = u.current) :
    ∃ stakes, Steps d t u (m.step move t) (n.step move u) stakes := by
  cases twins with
  | asked request held => exact steps_asked held move same covered insular suits here
  | calling a b calls held => exact steps_calling calls held move same covered insular
  | running a b tasks => exact steps_running tasks move same covered insular here
  | done => exact ⟨[], steps_idle .done same Pairing.covers_none .idle⟩

end Steps

end Members

end RequestSpans
