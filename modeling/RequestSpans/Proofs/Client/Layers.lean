import RequestSpans.Proofs.Client.Ways
import RequestSpans.Proofs.Server.Stack

set_option autoImplicit false

namespace RequestSpans

namespace Ledger

def Agree (l other : Ledger) (span : SpanContext) : Prop :=
  other.standing? span = l.standing? span ∧ other.history.count (.ended span) = l.history.count (.ended span)

section Agreement

variable {l other : Ledger} {span : SpanContext}

theorem agree_trans {last : Ledger} (early : l.Agree other span) (late : other.Agree last span) : l.Agree last span :=
  ⟨late.1.trans early.1, late.2.trans early.2⟩

theorem agree_open (agree : l.Agree other span) (before : Nat) (unfinished : l.Open span before) :
    other.Open span before := by
  obtain ⟨ended, known, counted⟩ := unfinished
  exact ⟨ended, agree.1.trans known, agree.2.trans counted⟩

theorem agree_closed (agree : l.Agree other span) (ends : Nat) (finished : l.Closed span ends) : other.Closed span ends :=
  ⟨agree.1.trans finished.1, agree.2.trans finished.2⟩

theorem agree_note (milestones : List Milestone) (others : .ended span ∉ milestones) : l.Agree (l.note milestones) span := by
  refine ⟨standing_note l milestones span, ?_⟩
  rw [note, List.count_append, List.count_eq_zero.mpr others, Nat.add_zero]

theorem agree_close (closed : SpanContext) (before : Nat) (unfinished : l.Open closed before)
    (different : span.span ≠ closed.span) : l.Agree (l.close closed) span := by
  obtain ⟨ended, known, _⟩ := unfinished
  refine ⟨standing_close_other l closed span different, ?_⟩
  have other : closed ≠ span := fun same => different (congrArg SpanContext.span same.symm)
  rw [close_history, closure_running l closed ended known, List.count_append]
  cases ended <;> simp [other]

end Agreement

theorem open_start_old (l : Ledger) (fresh span : SpanContext) (parent? : Option SpanContext) (links : List SpanContext)
    (before : Nat) (unfinished : l.Open span before) : (l.start fresh parent? links).Open span before := by
  obtain ⟨ended, known, counted⟩ := unfinished
  refine ⟨ended, standing_start_old l fresh span parent? links _ known, ?_⟩
  simpa [start] using counted

end Ledger

namespace ActiveCall

theorem closing_agree (call : ActiveCall) (signal : Signal) (l : Ledger) (before : Nat) (span : SpanContext)
    (unfinished : l.Open call.span before) (different : span.span ≠ call.span.span) :
    l.Agree (call.closing signal l) span := by
  have decorated := call.decorators.open_milestones (call.hook signal) (some call.span) l call.span before unfinished
  have hooked : l.Agree (l.note (call.decorators.milestones (call.hook signal) (some call.span))) span :=
    Ledger.agree_note _ (call.decorators.milestones_ended _ _ span)
  have ended := Ledger.agree_trans hooked (Ledger.agree_close call.span before decorated different)
  exact Ledger.agree_trans ended (Ledger.agree_note _ (by simp))

def closings (signal : Signal) (order : List ActiveCall) (l : Ledger) : Ledger :=
  order.foldl (fun l call => call.closing signal l) l

def Apart (calls : List ActiveCall) : Prop := (calls.map fun call => call.span.span).Nodup

def Running (calls : List ActiveCall) (ends : SpanContext → Nat) (l : Ledger) : Prop :=
  ∀ call ∈ calls, l.Open call.span (ends call.span)

section Closings

variable {first : ActiveCall} {rest : List ActiveCall} {ends : SpanContext → Nat} {l : Ledger}

theorem apart_cons (apart : Apart (first :: rest)) :
    Apart rest ∧ ∀ call ∈ rest, call.span.span ≠ first.span.span := by
  obtain ⟨fresh, others⟩ := List.nodup_cons.mp apart
  refine ⟨others, fun call present same => fresh ?_⟩
  exact List.mem_map.mpr ⟨call, present, same⟩

theorem running_rest (signal : Signal) (apart : Apart (first :: rest)) (running : Running (first :: rest) ends l) :
    Running rest ends (first.closing signal l) := by
  intro call present
  have different := (apart_cons apart).2 call present
  have agree := first.closing_agree signal l _ call.span (running first List.mem_cons_self) different
  exact Ledger.agree_open agree _ (running call (List.mem_cons_of_mem _ present))

theorem closings_agree (signal : Signal) (order : List ActiveCall) (span : SpanContext) (apart : Apart order)
    (running : Running order ends l) (different : ∀ call ∈ order, span.span ≠ call.span.span) :
    l.Agree (closings signal order l) span := by
  induction order generalizing l with
  | nil => exact ⟨rfl, rfl⟩
  | cons first rest ih =>
      have ended := first.closing_agree signal l _ span (running first List.mem_cons_self)
        (different first List.mem_cons_self)
      have later := ih (apart_cons apart).1 (running_rest signal apart running)
        fun call present => different call (List.mem_cons_of_mem _ present)
      exact Ledger.agree_trans ended later

theorem closings_closed (signal : Signal) (order : List ActiveCall) (apart : Apart order) (running : Running order ends l) :
    ∀ call ∈ order, (closings signal order l).Closed call.span (ends call.span + 1) := by
  induction order generalizing l with
  | nil => exact fun call absent => absurd absent List.not_mem_nil
  | cons first rest ih =>
      obtain ⟨others, different⟩ := apart_cons apart
      have still := running_rest signal apart running
      intro call present
      rcases List.mem_cons.mp present with rfl | later
      · have ended := call.closing_closed signal l _ (running call List.mem_cons_self)
        have agree := closings_agree signal rest call.span others still fun other member => (different other member).symm
        exact Ledger.agree_closed agree _ ended
      · exact ih others still call later

theorem closing_history (call : ActiveCall) (signal : Signal) (l : Ledger) :
    ∃ later, (call.closing signal l).history = l.history ++ .round (call.hook signal) (some call.span) :: later :=
  ⟨_, by simp [closing, Ledger.note, DecoratorChain.milestones]; rfl⟩

theorem closings_history (signal : Signal) (order : List ActiveCall) (call : ActiveCall) (l : Ledger) :
    ∃ later, (closings signal (call :: order) l).history =
      l.history ++ .round (call.hook signal) (some call.span) :: later := by
  induction order generalizing call l with
  | nil => exact call.closing_history signal l
  | cons next order ih =>
      obtain ⟨own, ended⟩ := call.closing_history signal l
      obtain ⟨later, rest⟩ := ih next (call.closing signal l)
      rw [ended, List.append_assoc] at rest
      exact ⟨_, rest⟩

theorem closings_reverse_iff (signal : Signal) (calls : List ActiveCall) (apart : Apart calls) :
    closings signal calls l = closings signal calls.reverse l ↔ calls.length ≤ 1 := by
  match calls, apart with
  | [], _ => simp
  | [call], _ => simp
  | outer :: inner :: rest, apart =>
      constructor
      · intro same
        cases turned : (inner :: rest).reverse with
        | nil => exact absurd turned (by simp)
        | cons innermost others =>
            rw [List.reverse_cons, turned, List.cons_append] at same
            obtain ⟨_, first⟩ := closings_history signal (inner :: rest) outer l
            obtain ⟨_, other⟩ := closings_history signal (others ++ [outer]) innermost l
            rw [same, other] at first
            have rounds := (List.cons.inj (List.append_cancel_left first)).1
            have member : innermost ∈ inner :: rest := List.mem_reverse.mp (by rw [turned]; exact List.mem_cons_self)
            have spans : innermost.span = outer.span := Option.some.inj (Milestone.round.inj rounds).2
            exact absurd (congrArg SpanContext.span spans) ((apart_cons apart).2 innermost member)
      · intro few
        simp at few

end Closings

def nested (calls : List ActiveCall) (task : Task) : Task := .guardedBy (calls.map guard) task

def instrumented : List ActiveCall → Task → Task
  | [], task => task
  | call :: rest, task => ClientCall.instrument ⟨some call⟩ (instrumented rest task)

theorem poll_instrumented (calls : List ActiveCall) (task : Task) (t : Telemetry) :
    (instrumented calls task).poll t = (nested calls task).poll t := by
  induction calls generalizing t with
  | nil => rfl
  | cons call rest ih =>
      simp only [instrumented, ClientCall.instrument, nested, List.map_cons, Task.guardedBy, Task.poll, Telemetry.within]
      rw [ih, nested]

theorem drop_instrumented (calls : List ActiveCall) (work : Work) (ends : SpanContext → Nat) (t : Telemetry)
    (apart : Apart calls) (running : Running calls ends t.ledger) :
    ((instrumented calls (.ofWork work)).drop t).ledger = closings .cancelled calls t.ledger := by
  induction calls generalizing t with
  | nil => rfl
  | cons call rest ih =>
      have cancelled : (call.guard.drop t).ledger = call.closing .cancelled t.ledger :=
        call.guard_concludes none t _ (running call List.mem_cons_self)
      have still : Running rest ends (call.guard.drop t).ledger := by
        rw [cancelled]
        exact running_rest .cancelled apart running
      simp only [instrumented, ClientCall.instrument, Task.drop, if_true]
      rw [ih _ (apart_cons apart).1 still, cancelled]
      rfl

theorem apart_reverse {calls : List ActiveCall} (apart : Apart calls) : Apart calls.reverse := by
  rw [Apart, List.map_reverse]
  exact (List.reverse_perm _).nodup_iff.mpr apart

theorem running_reverse {calls : List ActiveCall} {ends : SpanContext → Nat} {l : Ledger} (running : Running calls ends l) :
    Running calls.reverse ends l :=
  fun call present => running call (List.mem_reverse.mp present)

theorem guards_conclude_calls (calls : List ActiveCall) (outcome? : Option Outcome) (ends : SpanContext → Nat) (l : Ledger)
    (apart : Apart calls) (running : Running calls ends l) :
    Task.Concluded outcome? (calls.map guard) l (closings (.settled outcome?) calls.reverse l) := by
  induction calls with
  | nil => rfl
  | cons call rest ih =>
      obtain ⟨others, different⟩ := apart_cons apart
      have inner : Running rest ends l := fun other present => running other (List.mem_cons_of_mem _ present)
      refine ⟨_, ih others inner, ?_⟩
      intro t inside
      have agree := closings_agree (.settled outcome?) rest.reverse call.span (apart_reverse others) (running_reverse inner)
        fun other present => (different other (List.mem_reverse.mp present)).symm
      have unfinished := Ledger.agree_open agree _ (running call List.mem_cons_self)
      rw [call.guard_concludes outcome? t _ (by rw [inside]; exact unfinished), inside]
      simp only [closings, List.reverse_cons, List.foldl_append, List.foldl_cons, List.foldl_nil]

end ActiveCall
namespace ClientLayers

def service : List ClientInterceptor → Service → Service
  | [], below => below
  | interceptor :: rest, below => .traceClient interceptor (service rest below)

-- The calls that the layers start on a request, the outermost first: each on the
-- request that the one above it sends, and in its context. `sent` is what the
-- service below them all is given, and `called` where.
inductive Starts : List ClientInterceptor → Request → Telemetry → List ActiveCall → Request → Telemetry → Prop
  | bottom (request : Request) (t : Telemetry) : Starts [] request t [] request t
  | traced (interceptor : ClientInterceptor) (rest : List ClientInterceptor) (request sent : Request)
      (t opened called : Telemetry) (call : ActiveCall) (calls : List ActiveCall)
      (starts : interceptor.Starts request t call opened)
      (below : Starts rest call.request (opened.attach (.of call.span)) calls sent called) :
      Starts (interceptor :: rest) request t (call :: calls) sent called
  | untraced (interceptor : ClientInterceptor) (rest : List ClientInterceptor) (request sent : Request)
      (t called : Telemetry) (calls : List ActiveCall) (disabled : interceptor.enabled = false)
      (below : Starts rest request (t.attach t.current) calls sent called) :
      Starts (interceptor :: rest) request t calls sent called

theorem layers_start (layers : List ClientInterceptor) (request : Request) (t : Telemetry) :
    ∃ calls sent called, Starts layers request t calls sent called := by
  induction layers generalizing request t with
  | nil => exact ⟨[], request, t, .bottom request t⟩
  | cons interceptor rest ih =>
      cases enabled : interceptor.enabled with
      | true =>
          obtain ⟨call, opened, starts⟩ := interceptor.start_starts request t enabled
          obtain ⟨calls, sent, called, below⟩ := ih call.request (opened.attach (.of call.span))
          exact ⟨_, sent, called, .traced _ _ _ _ _ _ _ _ _ starts below⟩
      | false =>
          obtain ⟨calls, sent, called, below⟩ := ih request (t.attach t.current)
          exact ⟨calls, sent, called, .untraced _ _ _ _ _ _ _ enabled below⟩

section Started

variable {layers : List ClientInterceptor} {request sent : Request} {t called : Telemetry} {calls : List ActiveCall}

theorem call_number (interceptor : ClientInterceptor) (opened : Telemetry) (call : ActiveCall)
    (starts : interceptor.Starts request t call opened) :
    call.span.span = t.ledger.standings.length + 1 ∧ opened.ledger.standings.length = call.span.span := by
  have next := (t.next_context_next t.current).2
  rw [← starts.span] at next
  refine ⟨next, ?_⟩
  rw [starts.opening, next]
  simp [Ledger.start, Ledger.note]

theorem starts_apart (starts : Starts layers request t calls sent called) :
    (∀ call ∈ calls, t.ledger.standings.length < call.span.span) ∧ ActiveCall.Apart calls := by
  induction starts with
  | bottom => exact ⟨fun call absent => absurd absent List.not_mem_nil, List.nodup_nil⟩
  | traced interceptor rest request sent t opened called call calls starts _ ih =>
      obtain ⟨number, length⟩ := call_number interceptor opened call starts
      obtain ⟨higher, apart⟩ := ih
      simp only [Telemetry.ledger_attach, length] at higher
      constructor
      · intro other present
        rcases List.mem_cons.mp present with rfl | inner
        · omega
        · have above := higher other inner
          omega
      · refine List.nodup_cons.mpr ⟨?_, apart⟩
        intro present
        obtain ⟨other, inner, same⟩ := List.mem_map.mp present
        exact absurd same (Nat.ne_of_gt (higher other inner))
  | untraced _ _ _ _ _ _ _ _ _ ih => exact ih

theorem starts_keep_open (starts : Starts layers request t calls sent called) (span : SpanContext) (before : Nat)
    (unfinished : t.ledger.Open span before) : called.ledger.Open span before := by
  induction starts with
  | bottom => exact unfinished
  | traced interceptor rest request sent t opened called call calls starts _ ih =>
      apply ih
      rw [Telemetry.ledger_attach, starts.opening]
      exact interceptor.decorators.open_milestones _ _ _ span before (Ledger.open_start_old _ _ _ _ _ before unfinished)
  | untraced _ _ _ _ _ _ _ _ _ ih => exact ih unfinished

theorem start_ends (interceptor : ClientInterceptor) (opened : Telemetry) (call : ActiveCall)
    (starts : interceptor.Starts request t call opened) (span : SpanContext) :
    opened.history.count (.ended span) = t.history.count (.ended span) := by
  have silent := interceptor.decorators.milestones_ended (.request call.request) (some call.span) span
  have opening := (Ledger.agree_note (l := t.ledger.start call.span t.current.span? []) _ silent).2
  rw [← starts.opening] at opening
  rw [Telemetry.history, opening]
  simp [Ledger.start, Telemetry.history]

theorem starts_running (starts : Starts layers request t calls sent called) :
    ActiveCall.Running calls (fun span => t.history.count (.ended span)) called.ledger := by
  induction starts with
  | bottom => exact fun call absent => absurd absent List.not_mem_nil
  | traced interceptor rest request sent t opened called call calls starts below ih =>
      intro other present
      rcases List.mem_cons.mp present with rfl | inner
      · exact starts_keep_open below _ _ (interceptor.starts_open request t other opened starts)
      · have counted := start_ends interceptor opened call starts other.span
        have running := ih other inner
        dsimp only at running ⊢
        rw [← counted]
        exact running
  | untraced _ _ _ _ _ _ _ _ _ ih => exact ih

theorem starts_dispatch (starts : Starts layers request t calls sent called) (ready : Bool) (answer : Answer) :
    ∃ dispatched, dispatched.ledger = (answer ready sent called).2.ledger ∧
      (service layers (.innermost ready answer.serve)).dispatch request t =
        (some (ActiveCall.instrumented calls (.ofWork (answer ready sent called).1)), dispatched) := by
  induction starts with
  | bottom request t => exact ⟨(answer ready request t).2, rfl, rfl⟩
  | traced interceptor rest request sent t opened called call calls starts _ ih =>
      obtain ⟨dispatched, answered, below⟩ := ih
      exact ⟨dispatched.detach, answered, interceptor.call_client request t call opened dispatched _ _ starts below⟩
  | untraced interceptor rest request sent t called calls disabled _ ih =>
      obtain ⟨dispatched, answered, below⟩ := ih
      refine ⟨dispatched.detach, answered, ?_⟩
      simp only [service, Service.dispatch, Service.callClient, ClientInterceptor.start, disabled, Bool.not_false, if_true,
        ClientCall.context, Telemetry.within, below]
      rfl

end Started

def Spared (calls : List ActiveCall) (meanwhile : Nat → Telemetry → Telemetry) : Prop :=
  ∀ call ∈ calls, ∀ left, Spares call.span (meanwhile left)

structure Unwinds (calls : List ActiveCall) (work : Work) (task : Task) (ends : SpanContext → Nat)
    (dispatched : Telemetry) : Prop where
  nested : ∀ (meanwhile : Nat → Telemetry → Telemetry) (polls : Nat), Spared calls meanwhile →
    let bare := (Task.scopedBy (calls.map fun call => .of call.span) (.ofWork work)).drive meanwhile polls dispatched
    let run := (ActiveCall.nested calls (.ofWork work)).drive meanwhile polls dispatched
    run.1 = bare.1 ∧ run.2.ledger = ActiveCall.closings (.settled bare.1) calls.reverse bare.2.ledger
  polled : ∀ (meanwhile : Nat → Telemetry → Telemetry) (polls : Nat),
    task.drive meanwhile (polls + 1) dispatched =
      (ActiveCall.nested calls (.ofWork work)).drive meanwhile (polls + 1) dispatched
  unpolled : ∀ meanwhile : Nat → Telemetry → Telemetry, Spared calls meanwhile →
    let run := task.drive meanwhile 0 dispatched
    run.1 = none ∧ run.2.ledger = ActiveCall.closings .cancelled calls (meanwhile 0 dispatched).ledger
  once : ∀ (meanwhile : Nat → Telemetry → Telemetry) (polls : Nat), Spared calls meanwhile →
    ∀ call ∈ calls, (task.drive meanwhile polls dispatched).2.ledger.Closed call.span (ends call.span + 1)

theorem unwinds_nested_iff (calls : List ActiveCall) (work : Work) (task : Task) (ends : SpanContext → Nat)
    (dispatched : Telemetry) (unwinds : Unwinds calls work task ends dispatched) (apart : ActiveCall.Apart calls)
    (meanwhile : Nat → Telemetry → Telemetry) (polls : Nat) (company : Spared calls meanwhile) :
    (task.drive meanwhile polls dispatched).2.ledger =
        ((ActiveCall.nested calls (.ofWork work)).drive meanwhile polls dispatched).2.ledger ↔
      0 < polls ∨ calls.length ≤ 1 := by
  cases polls with
  | zero =>
      have bare : (Task.scopedBy (calls.map fun call => .of call.span) (.ofWork work)).drive meanwhile 0 dispatched =
          (none, meanwhile 0 dispatched) := by
        rw [Task.drive, Task.drop_scoped_by]
        rfl
      have inside := (unwinds.nested meanwhile 0 company).2
      rw [bare] at inside
      rw [(unwinds.unpolled meanwhile company).2, inside]
      simp only [Nat.lt_irrefl, false_or]
      exact ActiveCall.closings_reverse_iff .cancelled calls apart
  | succ polls => simp [unwinds.polled meanwhile polls]

theorem nested_unwinds (calls : List ActiveCall) (work : Work) (ends : SpanContext → Nat) (dispatched : Telemetry)
    (meanwhile : Nat → Telemetry → Telemetry) (polls : Nat) (apart : ActiveCall.Apart calls)
    (running : ActiveCall.Running calls ends dispatched.ledger) (spares : ∀ call ∈ calls, work.Spares call.span)
    (company : Spared calls meanwhile) :
    let bare := (Task.scopedBy (calls.map fun call => .of call.span) (.ofWork work)).drive meanwhile polls dispatched
    let run := (ActiveCall.nested calls (.ofWork work)).drive meanwhile polls dispatched
    (run.1 = bare.1 ∧ run.2.ledger = ActiveCall.closings (.settled bare.1) calls.reverse bare.2.ledger) ∧
      ∀ call ∈ calls, run.2.ledger.Closed call.span (ends call.span + 1) := by
  intro bare run
  have contexts : (calls.map ActiveCall.guard).map TerminalGuard.context = calls.map fun call => .of call.span := by
    rw [List.map_map]
    rfl
  have still : ActiveCall.Running calls ends bare.2.ledger := by
    intro call present
    exact Task.drive_work_open meanwhile polls _ work 0 call.span _ dispatched (company call present) (spares call present)
      (running call present)
  have concluded := ActiveCall.guards_conclude_calls calls bare.1 ends bare.2.ledger apart still
  obtain ⟨same, ledger⟩ := Task.drive_guarded_by meanwhile polls (calls.map ActiveCall.guard) (.ofWork work) dispatched _
    (by rw [contexts]; exact concluded)
  rw [contexts] at same
  refine ⟨⟨same, ledger⟩, ?_⟩
  have closed := ActiveCall.closings_closed (.settled bare.1) calls.reverse (ActiveCall.apart_reverse apart)
    (ActiveCall.running_reverse still)
  intro call present
  have ended := closed call (List.mem_reverse.mpr present)
  rw [← ledger] at ended
  exact ended

theorem instrumented_unwinds (calls : List ActiveCall) (work : Work) (ends : SpanContext → Nat) (dispatched : Telemetry)
    (apart : ActiveCall.Apart calls) (running : ActiveCall.Running calls ends dispatched.ledger)
    (spares : ∀ call ∈ calls, work.Spares call.span) :
    Unwinds calls work (ActiveCall.instrumented calls (.ofWork work)) ends dispatched := by
  have nested := fun meanwhile polls => nested_unwinds calls work ends dispatched meanwhile polls apart running spares
  have polled : ∀ (meanwhile : Nat → Telemetry → Telemetry) (polls : Nat),
      (ActiveCall.instrumented calls (.ofWork work)).drive meanwhile (polls + 1) dispatched =
        (ActiveCall.nested calls (.ofWork work)).drive meanwhile (polls + 1) dispatched := by
    intro meanwhile polls
    exact Task.drive_first meanwhile polls _ _ dispatched dispatched (ActiveCall.poll_instrumented calls _ _)
  have unpolled : ∀ meanwhile : Nat → Telemetry → Telemetry, Spared calls meanwhile →
      ActiveCall.Running calls ends (meanwhile 0 dispatched).ledger ∧
        ((ActiveCall.instrumented calls (.ofWork work)).drive meanwhile 0 dispatched).2.ledger =
          ActiveCall.closings .cancelled calls (meanwhile 0 dispatched).ledger := by
    intro meanwhile company
    have still : ActiveCall.Running calls ends (meanwhile 0 dispatched).ledger :=
      fun call present => company call present 0 dispatched _ (running call present)
    exact ⟨still, ActiveCall.drop_instrumented calls work ends _ apart still⟩
  refine ⟨fun meanwhile polls company => (nested meanwhile polls company).1, polled, ?unpolled, ?once⟩
  case unpolled => exact fun meanwhile company => ⟨rfl, (unpolled meanwhile company).2⟩
  case once =>
    intro meanwhile polls company call present
    cases polls with
    | zero =>
        obtain ⟨still, ledger⟩ := unpolled meanwhile company
        rw [ledger]
        exact ActiveCall.closings_closed .cancelled calls apart still call present
    | succ polls =>
        rw [polled meanwhile polls]
        exact (nested meanwhile (polls + 1) company).2 call present

-- What a call does around a task, next to what `propagate` does around it. All
-- that the task does, be it the end of calls inside of it, comes before the end of
-- the call, unless the task has never been polled.
structure Encloses (call : ActiveCall) (task : Task) : Prop where
  polled : ∀ (meanwhile : Nat → Telemetry → Telemetry) (polls : Nat) (t : Telemetry),
    let bare := (Task.scoped (.of call.span) task).drive meanwhile (polls + 1) t
    let run := (ClientCall.instrument ⟨some call⟩ task).drive meanwhile (polls + 1) t
    run = (bare.1, call.guard.conclude bare.1 bare.2) ∧
      run = (Task.propagate (.of call.span) call.terminal task).drive meanwhile (polls + 1) t
  unpolled : ∀ (meanwhile : Nat → Telemetry → Telemetry) (t : Telemetry),
    (ClientCall.instrument ⟨some call⟩ task).drive meanwhile 0 t = (none, task.drop (call.guard.drop (meanwhile 0 t))) ∧
      (Task.propagate (.of call.span) call.terminal task).drive meanwhile 0 t =
        (none, call.guard.drop (task.drop (meanwhile 0 t)))

theorem call_encloses (call : ActiveCall) (task : Task) : Encloses call task := by
  refine ⟨?polled, fun _ _ => ⟨rfl, rfl⟩⟩
  intro meanwhile polls t bare run
  have same : run = (Task.propagate (.of call.span) call.terminal task).drive meanwhile (polls + 1) t :=
    Task.drive_guard_first meanwhile polls call.guard task t
  exact ⟨same.trans (Task.drive_guarded_alone meanwhile (polls + 1) call.guard task t), same⟩

-- The calls of layers end innermost first, as they do under nested guards, if and
-- only if there is one of them at most or the future has been polled.
theorem calls_end_innermost_first_iff_polled (layers : List ClientInterceptor) (ready : Bool) (answer : Answer)
    (request : Request) (t : Telemetry) :
    (∀ (call : ActiveCall) (task : Task), Encloses call task) ∧
    ∃ calls sent called, Starts layers request t calls sent called ∧
      ((∀ call ∈ calls, answer.Spares call.span) →
        ∃ task dispatched, dispatched.ledger = (answer ready sent called).2.ledger ∧
          (service layers (.innermost ready answer.serve)).dispatch request t = (some task, dispatched) ∧
          Unwinds calls (answer ready sent called).1 task (fun span => t.history.count (.ended span)) dispatched ∧
          ∀ (meanwhile : Nat → Telemetry → Telemetry) (polls : Nat), Spared calls meanwhile →
            ((task.drive meanwhile polls dispatched).2.ledger =
                ((ActiveCall.nested calls (.ofWork (answer ready sent called).1)).drive meanwhile polls dispatched).2.ledger ↔
              0 < polls ∨ calls.length ≤ 1)) := by
  refine ⟨call_encloses, ?_⟩
  obtain ⟨calls, sent, called, starts⟩ := layers_start layers request t
  refine ⟨calls, sent, called, starts, ?_⟩
  intro spares
  obtain ⟨dispatched, answered, handed⟩ := starts_dispatch starts ready answer
  have apart := (starts_apart starts).2
  have running := starts_running starts
  have still : ActiveCall.Running calls (fun span => t.history.count (.ended span)) dispatched.ledger := by
    intro call present
    rw [answered]
    exact (spares call present ready sent).1 called _ (running call present)
  have unwinds := instrumented_unwinds calls _ _ dispatched apart still
    fun call present => (spares call present ready sent).2 called
  exact ⟨_, dispatched, answered, handed, unwinds, unwinds_nested_iff calls _ _ _ dispatched unwinds apart⟩

def relay : List ClientInterceptor := [.standard ⟨some .silent⟩, .standard ⟨some .silent⟩]

def slowAnswer : Answer := fun _ _ t => (ClientInterceptor.slowReply, t)

theorem calls_end_innermost_first_iff_polled_reservation : ∃ calls sent called task dispatched,
    Starts relay ClientInterceptor.reservation (.start .silent false) calls sent called ∧
    (service relay (.innermost true slowAnswer.serve)).dispatch ClientInterceptor.reservation (.start .silent false) =
      (some task, dispatched) ∧
    ∀ polls,
      let run := task.drive (fun _ t => t) polls dispatched
      (run.2.ledger = ((ActiveCall.nested calls (.ofWork ClientInterceptor.slowReply)).drive (fun _ t => t) polls
          dispatched).2.ledger ↔ 0 < polls ∨ calls.length ≤ 1) ∧
        ∀ call ∈ calls, run.2.ledger.Closed call.span 1 := by
  obtain ⟨_, calls, sent, called, starts, unwinds⟩ :=
    calls_end_innermost_first_iff_polled relay true slowAnswer ClientInterceptor.reservation (.start .silent false)
  obtain ⟨task, dispatched, _, handed, ends, innermost⟩ :=
    unwinds fun _ _ _ _ => ⟨fun _ _ unfinished => unfinished, fun _ _ _ _ unfinished => unfinished⟩
  have idle : Spared calls fun _ t => t := fun _ _ _ _ _ unfinished => unfinished
  refine ⟨calls, sent, called, task, dispatched, starts, handed, ?_⟩
  exact fun polls => ⟨innermost (fun _ t => t) polls idle, ends.once (fun _ t => t) polls idle⟩

def endings (l : Ledger) : List Nat :=
  l.history.filterMap fun
    | .ended span => some span.span
    | _ => none

theorem unpolled_calls_end_outermost_first : ∃ task dispatched,
    (service relay (.innermost true slowAnswer.serve)).dispatch ClientInterceptor.reservation (.start .silent false) =
      (some task, dispatched) ∧
    endings (task.drive (fun _ t => t) 0 dispatched).2.ledger = [1, 2] ∧
    endings (task.drive (fun _ t => t) 1 dispatched).2.ledger = [2, 1] :=
  ⟨_, _, rfl, rfl, rfl⟩

end ClientLayers

end RequestSpans
