import RequestSpans.Proofs.Client.Call
import RequestSpans.Proofs.Comparison.Client

set_option autoImplicit false

namespace RequestSpans

def ClientCall.surround (call : ClientCall) (task : Task) : Task :=
  match call.active? with
  | some active => .scoped (.of active.span) task
  | none => task

namespace Task

theorem drive_first (meanwhile : Nat → Telemetry → Telemetry) (polls : Nat) (task other : Task) (t u : Telemetry)
    (same : task.poll (meanwhile (polls + 1) t) = other.poll (meanwhile (polls + 1) u)) :
    task.drive meanwhile (polls + 1) t = other.drive meanwhile (polls + 1) u := by
  simp only [drive, same]

-- A task that comes to an outcome has been polled, so which of guard and task
-- goes first when both are dropped makes no difference.
theorem drive_guarded_outcome (guard : TerminalGuard) (first : Bool) (inner : Task)
    (meanwhile : Nat → Telemetry → Telemetry) (polls : Nat) (t answered : Telemetry) (outcome : Outcome)
    (bare : (Task.scoped guard.context inner).drive meanwhile polls t = (some outcome, answered)) :
    (Task.guarded guard first inner).drive meanwhile polls t = (some outcome, (guard.complete outcome answered).2.2) := by
  cases polls with
  | zero => exact absurd (Prod.mk.inj bare).1 (by simp)
  | succ polls =>
      have either : (Task.guarded guard first inner).drive meanwhile (polls + 1) t =
          (Task.guarded guard false inner).drive meanwhile (polls + 1) t := by
        cases first with
        | true => exact drive_guard_first meanwhile polls guard inner t
        | false => rfl
      have alone := drive_guarded_alone meanwhile (polls + 1) guard inner t
      simp only [bare] at alone
      rw [either]
      exact alone

end Task

namespace ClientCall

theorem instrument_completes (call : ClientCall) (task : Task) (meanwhile : Nat → Telemetry → Telemetry) (polls : Nat)
    (t answered : Telemetry) (outcome : Outcome)
    (bare : (call.surround task).drive meanwhile polls t = (some outcome, answered)) :
    (call.instrument task).drive meanwhile polls t = (some outcome, (call.complete outcome answered).2) := by
  obtain ⟨none_ | active⟩ := call
  · exact bare
  · exact Task.drive_guarded_outcome active.guard true task meanwhile polls t answered outcome bare

end ClientCall

namespace ClientInterceptor

-- A way to make a call, with the code that answers the request. A blocking call
-- and one that is completed by hand have their outcome at once; the others have
-- a task for it, polled so many times while the process goes on. An exchange is
-- first polled where the others are started.
inductive Way where
  | execute (send : Request → Telemetry → Option Outcome × Telemetry)
  | complete (fetch : Request → Telemetry → Outcome × Telemetry)
  | instrument (fetch : Request → Telemetry → Task × Telemetry) (meanwhile : Nat → Telemetry → Telemetry) (polls : Nat)
  | exchange (send : Request → Telemetry → Option Work × Telemetry) (meanwhile : Nat → Telemetry → Telemetry) (polls : Nat)
  | service (below : Service) (meanwhile : Nat → Telemetry → Telemetry) (polls : Nat)

namespace Way

variable (interceptor : ClientInterceptor) (request : Request) (t : Telemetry)

def make : Way → Option Outcome × Telemetry
  | .execute send => interceptor.execute request send t
  | .complete fetch =>
    let (sent, call, opened) := interceptor.start request t
    let (outcome, answered) := fetch sent opened
    let (outcome, after) := call.complete outcome answered
    (some outcome, after)
  | .instrument fetch meanwhile polls =>
    let (sent, call, opened) := interceptor.start request t
    let (task, handed) := fetch sent opened
    (call.instrument task).drive meanwhile polls handed
  | .exchange send meanwhile polls =>
    (Task.lazyCall interceptor request send).drive (fromNext meanwhile polls) (polls + 1) t
  | .service below meanwhile polls =>
    match (Service.traceClient interceptor below).dispatch request t with
    | (some task, handed) => task.drive meanwhile polls handed
    | (none, handed) => (none, handed)

def answer (sent : Request) (call : ClientCall) (opened : Telemetry) : Way → Option Outcome × Telemetry
  | .execute send => opened.within (call.context opened) (send sent)
  | .complete fetch => let (outcome, answered) := fetch sent opened; (some outcome, answered)
  | .instrument fetch meanwhile polls =>
    let (task, handed) := fetch sent opened
    (call.surround task).drive meanwhile polls handed
  | .exchange send meanwhile polls =>
    match opened.within (call.context opened) (send sent) with
    | (some work, handed) => (call.surround (.ofWork work)).drive (fromNext meanwhile polls) (polls + 1) handed
    | (none, handed) => (none, handed)
  | .service below meanwhile polls =>
    match opened.within (call.context opened) (below.dispatch sent) with
    | (some task, handed) => (call.surround task).drive meanwhile polls handed
    | (none, handed) => (none, handed)

end Way

section Ways

variable {interceptor : ClientInterceptor} {request sent : Request} {call : ClientCall} {t opened answered : Telemetry}
  {outcome : Outcome} (begun : interceptor.start request t = (sent, call, opened))

include begun

theorem execute_completes (send : Request → Telemetry → Option Outcome × Telemetry)
    (replied : opened.within (call.context opened) (send sent) = (some outcome, answered)) :
    interceptor.execute request send t = (some outcome, (call.complete outcome answered).2) := by
  simp only [Pairing.execute_replied, Pairing.replied, begun, replied]

theorem complete_completes (fetch : Request → Telemetry → Outcome × Telemetry)
    (fetched : fetch sent opened = (outcome, answered)) :
    Way.make interceptor request t (.complete fetch) = (some outcome, (call.complete outcome answered).2) := by
  simp only [Way.make, begun, fetched]
  obtain ⟨none_ | active⟩ := call <;> rfl

theorem exchange_polls (send : Request → Telemetry → Option Work × Telemetry) (work : Work) (handed : Telemetry)
    (replied : opened.within (call.context opened) (send sent) = (some work, handed)) :
    (Task.lazyCall interceptor request send).poll t = (call.instrument (.ofWork work)).poll handed := by
  simp only [Task.poll, Task.pollCall, begun, replied]
  obtain ⟨none_ | active⟩ := call <;> rfl

theorem exchange_completes (send : Request → Telemetry → Option Work × Telemetry) (work : Work) (handed : Telemetry)
    (meanwhile : Nat → Telemetry → Telemetry) (polls : Nat)
    (replied : opened.within (call.context opened) (send sent) = (some work, handed))
    (bare : (call.surround (.ofWork work)).drive (fromNext meanwhile polls) (polls + 1) handed = (some outcome, answered)) :
    (Task.lazyCall interceptor request send).drive (fromNext meanwhile polls) (polls + 1) t =
      (some outcome, (call.complete outcome answered).2) := by
  have idle : ∀ now, fromNext meanwhile polls (polls + 1) now = now := fun _ => if_neg (Nat.not_succ_le_self polls)
  have first := exchange_polls begun send work handed replied
  rw [Task.drive_first _ polls _ (call.instrument (.ofWork work)) t handed (by rw [idle, idle, first])]
  exact call.instrument_completes _ _ _ handed answered outcome bare

theorem service_dispatches (below : Service) (task : Task) (handed : Telemetry)
    (called : opened.within (call.context opened) (below.dispatch sent) = (some task, handed)) :
    (Service.traceClient interceptor below).dispatch request t = (some (call.instrument task), handed) := by
  simp only [Service.dispatch, Service.callClient, begun, called]

end Ways

-- `start` is the one beginning and `complete` the one end of a call, whether it
-- is traced or not: the headers that are sent, the rounds of the decorators and
-- their arguments, the span and its end are theirs, in every way alike.
theorem ways_agree (interceptor : ClientInterceptor) (request sent : Request) (call : ClientCall)
    (t opened answered : Telemetry) (outcome : Outcome) (way : Way)
    (begun : interceptor.start request t = (sent, call, opened))
    (answers : way.answer sent call opened = (some outcome, answered)) :
    way.make interceptor request t = (some outcome, (call.complete outcome answered).2) := by
  cases way with
  | execute send => exact execute_completes begun send answers
  | complete fetch =>
      obtain ⟨same, rfl⟩ := Prod.mk.inj answers
      exact complete_completes begun fetch (by rw [← Option.some.inj same])
  | instrument fetch meanwhile polls =>
      simp only [Way.make, begun]
      exact call.instrument_completes _ meanwhile polls _ answered outcome answers
  | exchange send meanwhile polls =>
      rcases replied : opened.within (call.context opened) (send sent) with ⟨none_ | work, handed⟩ <;>
        simp only [Way.answer, replied] at answers
      · exact absurd (Prod.mk.inj answers).1 (by simp)
      · exact exchange_completes begun send work handed meanwhile polls replied answers
  | service below meanwhile polls =>
      rcases called : opened.within (call.context opened) (below.dispatch sent) with ⟨none_ | task, handed⟩ <;>
        simp only [Way.answer, called] at answers
      · exact absurd (Prod.mk.inj answers).1 (by simp)
      · simp only [Way.make, service_dispatches begun below task handed called]
        exact call.instrument_completes task meanwhile polls handed answered outcome answers

theorem from_next_idle (polls : Nat) : fromNext (fun _ t => t) polls = fun _ t => t := by
  funext left now
  simp [fromNext]

theorem slow_reply_times_out (call : ClientCall) (t : Telemetry) :
    (call.surround (.ofWork slowReply)).drive (fun _ t => t) 4 t = (some (.error ⟨"timed out", []⟩), t) := by
  obtain ⟨none_ | active⟩ := call <;>
    simp [ClientCall.surround, Task.drive, Task.poll, Task.pollWork, Task.ofWork, slowReply, Telemetry.within,
      Telemetry.attach, Telemetry.detach]

theorem ways_agree_reservation :
    let interceptor := standard ⟨some .silent⟩
    let timeout : Outcome := .error ⟨"timed out", []⟩
    let idle : Nat → Telemetry → Telemetry := fun _ t => t
    let now := Telemetry.start .silent false
    let made := fun way : Way => way.make interceptor reservation now
    (made (.complete fun _ t => (timeout, t))).1 = some timeout ∧
      made (.execute fun _ t => (some timeout, t)) = made (.complete fun _ t => (timeout, t)) ∧
      made (.instrument (fun _ t => (.ofWork slowReply, t)) idle 4) = made (.complete fun _ t => (timeout, t)) ∧
      made (.exchange (fun _ t => (some slowReply, t)) idle 3) = made (.complete fun _ t => (timeout, t)) ∧
      made (.service (.innermost true fun _ _ t => (some slowReply, t)) idle 4) = made (.complete fun _ t => (timeout, t)) := by
  intro interceptor timeout idle now made
  rcases begun : interceptor.start reservation now with ⟨sent, call, opened⟩
  have late := slow_reply_times_out call opened
  have agree := fun way => ways_agree interceptor reservation sent call now opened opened timeout way begun
  have completed := agree (.complete fun _ t => (timeout, t)) rfl
  refine ⟨congrArg Prod.fst completed, ?execute, ?instrument, ?exchange, ?service⟩
  case execute => exact (agree (.execute fun _ t => (some timeout, t)) rfl).trans completed.symm
  case instrument => exact (agree (.instrument (fun _ t => (.ofWork slowReply, t)) idle 4) late).trans completed.symm
  case exchange =>
    rw [← from_next_idle 3] at late
    exact (agree (.exchange (fun _ t => (some slowReply, t)) idle 3) late).trans completed.symm
  case service =>
    exact (agree (.service (.innermost true fun _ _ t => (some slowReply, t)) idle 4) late).trans completed.symm

end ClientInterceptor

end RequestSpans
