import RequestSpans.Proofs.Ledger
import RequestSpans.Task

set_option autoImplicit false

namespace RequestSpans

def Polled.resolved : Option Outcome → Polled
  | some outcome => .ready outcome
  | none => .panicked

def TerminalGuard.conclude (guard : TerminalGuard) (outcome? : Option Outcome) (t : Telemetry) : Telemetry :=
  match outcome? with
  | some outcome => (guard.complete outcome t).2.2
  | none => guard.drop t

def Signal.settled (outcome? : Option Outcome) : Signal := outcome?.elim .cancelled .ofOutcome

theorem conclude_new (context : Context) (terminal : Terminal) (outcome? : Option Outcome) (t : Telemetry) :
    ((TerminalGuard.new context terminal).conclude outcome? t).ledger =
      (terminal.fire (.settled outcome?) (t.attach context)).ledger := by
  cases outcome? with
  | some outcome => rfl
  | none => exact Telemetry.ledger_log _ _ _ _

def Spares (span : SpanContext) (step : Telemetry → Telemetry) : Prop :=
  ∀ t before, t.ledger.Open span before → (step t).ledger.Open span before

def Work.Spares (work : Work) (span : SpanContext) : Prop :=
  ∀ polls, RequestSpans.Spares span fun t => (work.poll polls t).2

namespace Task

-- Polls a task until it is over, but at most `polls` times, and then lets it
-- go. `meanwhile` is what the rest of the process does before each step; it
-- gets the number of polls that are left.
def drive (meanwhile : Nat → Telemetry → Telemetry) : Nat → Task → Telemetry → Option Outcome × Telemetry
  | 0, task, t => (none, task.drop (meanwhile 0 t))
  | polls + 1, task, t =>
      match task.poll (meanwhile (polls + 1) t) with
      | (.pending rest, t) => drive meanwhile polls rest t
      | (.ready outcome, t) => (some outcome, t)
      | (.panicked, t) => (none, t)

def guardedBy : List TerminalGuard → Task → Task
  | [], task => task
  | guard :: rest, task => .guarded guard false (guardedBy rest task)

def scopedBy : List Context → Task → Task
  | [], task => task
  | context :: rest, task => .scoped context (scopedBy rest task)

theorem scoped_by_append (outer : List Context) (context : Context) (task : Task) :
    scopedBy (outer ++ [context]) task = scopedBy outer (.scoped context task) := by
  induction outer with
  | nil => rfl
  | cons first rest ih => rw [List.cons_append, scopedBy, ih, scopedBy]

def Concluded (outcome? : Option Outcome) : List TerminalGuard → Ledger → Ledger → Prop
  | [], before, after => after = before
  | guard :: rest, before, after =>
      ∃ inside, Concluded outcome? rest before inside ∧
        ∀ t : Telemetry, t.ledger = inside → (guard.conclude outcome? t).ledger = after

-- The bare task is over in one state and the guarded task in another: in
-- between the guards have concluded, from the inside out. A task that was polled
-- has left the context of a guard by then; one that is dropped was in none.
inductive Concludes (outcome? : Option Outcome) : List TerminalGuard → Telemetry → Telemetry → Prop
  | unguarded (t : Telemetry) : Concludes outcome? [] t t
  | polled (guard : TerminalGuard) (rest : List TerminalGuard) (bare last : Telemetry)
      (inside : Concludes outcome? rest bare last) :
      Concludes outcome? (guard :: rest) bare.detach (guard.conclude outcome? last.detach)
  | dropped (guard : TerminalGuard) (rest : List TerminalGuard) (bare last : Telemetry)
      (inside : Concludes outcome? rest bare last) :
      Concludes outcome? (guard :: rest) bare (guard.conclude outcome? last)

theorem concludes_ledger (outcome? : Option Outcome) (guards : List TerminalGuard) (bare last : Telemetry) (after : Ledger)
    (concludes : Concludes outcome? guards bare last) (concluded : Concluded outcome? guards bare.ledger after) :
    last.ledger = after := by
  induction concludes generalizing after with
  | unguarded t => exact concluded.symm
  | polled guard rest bare last _ ih =>
      obtain ⟨inside, within, final⟩ := concluded
      exact final last.detach (ih inside within)
  | dropped guard rest bare last _ ih =>
      obtain ⟨inside, within, final⟩ := concluded
      exact final last (ih inside within)

theorem concludes_single (outcome? : Option Outcome) (guard : TerminalGuard) (bare last : Telemetry)
    (concludes : Concludes outcome? [guard] bare last) : last = guard.conclude outcome? bare := by
  cases concludes with
  | polled _ _ inner _ inside =>
      cases inside
      rfl
  | dropped _ _ _ _ inside =>
      cases inside
      rfl

theorem settle_over (guard : TerminalGuard) (outcome? : Option Outcome) (t : Telemetry) :
    settle guard (.resolved outcome?, t) = (.resolved outcome?, guard.conclude outcome? t) := by
  cases outcome? <;> rfl

theorem poll_guarded (guard : TerminalGuard) (first : Bool) (inner : Task) (t later : Telemetry) (result : Polled)
    (polled : inner.poll (t.attach guard.context) = (result, later)) :
    (Task.guarded guard first inner).poll t = settle guard (result, later.detach) := by
  simp only [poll, Telemetry.within, polled]

theorem poll_scoped_pending (context : Context) (inner rest : Task) (t later : Telemetry)
    (polled : inner.poll (t.attach context) = (.pending rest, later)) :
    (Task.scoped context inner).poll t = (.pending (.scoped context rest), later.detach) := by
  simp only [poll, Telemetry.within, polled]

theorem poll_scoped_over (context : Context) (inner : Task) (t later : Telemetry) (outcome? : Option Outcome)
    (polled : inner.poll (t.attach context) = (.resolved outcome?, later)) :
    (Task.scoped context inner).poll t = (.resolved outcome?, later.detach) := by
  cases outcome? <;> simp only [poll, Telemetry.within, polled, Polled.resolved]

theorem pending_or_resolved (result : Polled) : (∃ rest, result = .pending rest) ∨ ∃ outcome?, result = .resolved outcome? := by
  cases result with
  | pending rest => exact .inl ⟨rest, rfl⟩
  | ready outcome => exact .inr ⟨some outcome, rfl⟩
  | panicked => exact .inr ⟨none, rfl⟩

theorem resolved_injective (a b : Option Outcome) (same : Polled.resolved a = .resolved b) : a = b := by
  cases a <;> cases b <;> simp_all [Polled.resolved]

theorem resolved_not_pending (outcome? : Option Outcome) (rest : Task) : Polled.resolved outcome? ≠ .pending rest := by
  cases outcome? <;> simp [Polled.resolved]

theorem drop_scoped_by (contexts : List Context) (inner : Task) (t : Telemetry) :
    (scopedBy contexts inner).drop t = inner.drop t := by
  induction contexts with
  | nil => rfl
  | cons context rest ih => simpa only [scopedBy, drop] using ih

theorem drop_guarded_by (guards : List TerminalGuard) (inner : Task) (t : Telemetry) :
    Concludes none guards (inner.drop t) ((guardedBy guards inner).drop t) := by
  induction guards with
  | nil => exact .unguarded _
  | cons guard rest ih => exact .dropped guard rest _ _ ih

theorem poll_pending (guards : List TerminalGuard) (inner rest : Task) (t after : Telemetry)
    (polled : (scopedBy (guards.map TerminalGuard.context) inner).poll t = (.pending rest, after)) :
    ∃ next, rest = scopedBy (guards.map TerminalGuard.context) next ∧
      (guardedBy guards inner).poll t = (.pending (guardedBy guards next), after) := by
  induction guards generalizing rest t after with
  | nil => exact ⟨rest, rfl, polled⟩
  | cons guard outer ih =>
      rcases step : (scopedBy (outer.map TerminalGuard.context) inner).poll (t.attach guard.context) with
        ⟨result, later⟩
      rcases pending_or_resolved result with ⟨remaining, rfl⟩ | ⟨outcome?, rfl⟩
      · obtain ⟨next, rfl, guarded⟩ := ih remaining _ _ step
        rw [List.map_cons, scopedBy, poll_scoped_pending _ _ _ _ _ step] at polled
        obtain ⟨rfl, rfl⟩ := by simpa only [Prod.mk.injEq, Polled.pending.injEq] using polled
        exact ⟨next, rfl, poll_guarded guard false _ t _ _ guarded⟩
      · rw [List.map_cons, scopedBy, poll_scoped_over _ _ _ _ _ step] at polled
        exact absurd (Prod.mk.inj polled).1 (resolved_not_pending outcome? rest)

theorem poll_over (guards : List TerminalGuard) (inner : Task) (outcome? : Option Outcome) (t stopped : Telemetry)
    (polled : (scopedBy (guards.map TerminalGuard.context) inner).poll t = (.resolved outcome?, stopped)) :
    ∃ last, (guardedBy guards inner).poll t = (.resolved outcome?, last) ∧ Concludes outcome? guards stopped last := by
  induction guards generalizing t stopped with
  | nil => exact ⟨stopped, polled, .unguarded stopped⟩
  | cons guard outer ih =>
      rcases step : (scopedBy (outer.map TerminalGuard.context) inner).poll (t.attach guard.context) with
        ⟨result, later⟩
      rcases pending_or_resolved result with ⟨remaining, rfl⟩ | ⟨found, rfl⟩
      · rw [List.map_cons, scopedBy, poll_scoped_pending _ _ _ _ _ step] at polled
        exact absurd (Prod.mk.inj polled).1.symm (resolved_not_pending outcome? _)
      · rw [List.map_cons, scopedBy, poll_scoped_over _ _ _ _ _ step] at polled
        obtain ⟨same, rfl⟩ := Prod.mk.inj polled
        obtain rfl := resolved_injective found outcome? same
        obtain ⟨last, guarded, inside⟩ := ih _ later step
        refine ⟨guard.conclude found last.detach, ?_, .polled guard outer later last inside⟩
        rw [guardedBy, poll_guarded guard false _ t last _ guarded, settle_over]

theorem drive_pending (meanwhile : Nat → Telemetry → Telemetry) (polls : Nat) (task rest : Task) (t later : Telemetry)
    (polled : task.poll (meanwhile (polls + 1) t) = (.pending rest, later)) :
    task.drive meanwhile (polls + 1) t = rest.drive meanwhile polls later := by
  simp only [drive, polled]

theorem drive_over (meanwhile : Nat → Telemetry → Telemetry) (polls : Nat) (task : Task) (t later : Telemetry)
    (outcome? : Option Outcome) (polled : task.poll (meanwhile (polls + 1) t) = (.resolved outcome?, later)) :
    task.drive meanwhile (polls + 1) t = (outcome?, later) := by
  cases outcome? <;> simp only [drive, polled, Polled.resolved]

-- The schedule is followed poll by poll. Until the task is over the guards do
-- nothing but attach their contexts; what they conclude comes at the end.
theorem drive_concludes (meanwhile : Nat → Telemetry → Telemetry) (polls : Nat) (guards : List TerminalGuard)
    (inner : Task) (t : Telemetry) :
    let bare := (scopedBy (guards.map TerminalGuard.context) inner).drive meanwhile polls t
    let run := (guardedBy guards inner).drive meanwhile polls t
    run.1 = bare.1 ∧ Concludes bare.1 guards bare.2 run.2 := by
  induction polls generalizing inner t with
  | zero =>
      simp only [drive, drop_scoped_by]
      exact ⟨trivial, drop_guarded_by guards inner _⟩
  | succ polls ih =>
      rcases step : (scopedBy (guards.map TerminalGuard.context) inner).poll (meanwhile (polls + 1) t) with
        ⟨result, later⟩
      rcases pending_or_resolved result with ⟨rest, rfl⟩ | ⟨outcome?, rfl⟩
      · obtain ⟨next, rfl, guarded⟩ := poll_pending guards inner rest _ later step
        rw [drive_pending _ _ _ _ _ _ step, drive_pending _ _ _ _ _ _ guarded]
        exact ih next later
      · obtain ⟨last, guarded, concludes⟩ := poll_over guards inner outcome? _ later step
        rw [drive_over _ _ _ _ _ _ step, drive_over _ _ _ _ _ _ guarded]
        exact ⟨rfl, concludes⟩

theorem drive_guarded_alone (meanwhile : Nat → Telemetry → Telemetry) (polls : Nat) (guard : TerminalGuard) (inner : Task)
    (t : Telemetry) :
    let bare := (Task.scoped guard.context inner).drive meanwhile polls t
    (guarded guard false inner).drive meanwhile polls t = (bare.1, guard.conclude bare.1 bare.2) := by
  intro bare
  obtain ⟨same, concludes⟩ := drive_concludes meanwhile polls [guard] inner t
  exact Prod.ext same (concludes_single _ guard _ _ concludes)

theorem drive_guarded_by (meanwhile : Nat → Telemetry → Telemetry) (polls : Nat) (guards : List TerminalGuard)
    (inner : Task) (t : Telemetry) (after : Ledger)
    (concluded : Concluded ((scopedBy (guards.map TerminalGuard.context) inner).drive meanwhile polls t).1 guards
      ((scopedBy (guards.map TerminalGuard.context) inner).drive meanwhile polls t).2.ledger after) :
    ((guardedBy guards inner).drive meanwhile polls t).1 =
        ((scopedBy (guards.map TerminalGuard.context) inner).drive meanwhile polls t).1 ∧
      ((guardedBy guards inner).drive meanwhile polls t).2.ledger = after := by
  obtain ⟨same, concludes⟩ := drive_concludes meanwhile polls guards inner t
  exact ⟨same, concludes_ledger _ guards _ _ after concludes concluded⟩

theorem poll_scoped_work (contexts : List Context) (work : Work) (polls : Nat) (kept : Ledger → Prop) (t : Telemetry)
    (keeps : ∀ polls t, kept t.ledger → kept (work.poll polls t).2.ledger) (holds : kept t.ledger) :
    ∃ result later, (scopedBy contexts (.leaf work polls)).poll t = (result, later) ∧
      kept later.ledger ∧ ∀ rest, result = .pending rest → rest = scopedBy contexts (.leaf work (polls + 1)) := by
  induction contexts generalizing t with
  | nil =>
      have still := keeps polls t holds
      rcases step : work.poll polls t with ⟨progress, later⟩
      simp only [step] at still
      cases progress with
      | pending =>
          refine ⟨.pending (.leaf work (polls + 1)), later, by simp only [scopedBy, poll, pollWork, step], still, ?_⟩
          simp [scopedBy]
      | ready outcome => exact ⟨.ready outcome, later, by simp only [scopedBy, poll, pollWork, step], still, by simp⟩
      | panicked => exact ⟨.panicked, later, by simp only [scopedBy, poll, pollWork, step], still, by simp⟩
  | cons context outer ih =>
      obtain ⟨result, later, step, still, same⟩ := ih (t.attach context) holds
      rcases pending_or_resolved result with ⟨rest, rfl⟩ | ⟨outcome?, rfl⟩
      · refine ⟨_, _, poll_scoped_pending context _ rest t later step, still, ?_⟩
        simp [same rest rfl, scopedBy]
      · refine ⟨_, _, poll_scoped_over context _ t later outcome? step, still, ?_⟩
        exact fun rest pending => absurd pending (resolved_not_pending outcome? rest)

theorem drive_work_keeps (meanwhile : Nat → Telemetry → Telemetry) (left : Nat) (contexts : List Context) (work : Work)
    (polls : Nat) (kept : Ledger → Prop) (t : Telemetry) (company : ∀ left t, kept t.ledger → kept (meanwhile left t).ledger)
    (keeps : ∀ polls t, kept t.ledger → kept (work.poll polls t).2.ledger) (holds : kept t.ledger) :
    kept ((scopedBy contexts (.leaf work polls)).drive meanwhile left t).2.ledger := by
  induction left generalizing polls t with
  | zero =>
      simp only [drive, drop_scoped_by]
      exact company 0 t holds
  | succ left ih =>
      obtain ⟨result, later, step, still, same⟩ :=
        poll_scoped_work contexts work polls kept _ keeps (company (left + 1) t holds)
      rcases pending_or_resolved result with ⟨rest, rfl⟩ | ⟨outcome?, rfl⟩
      · rw [drive_pending _ _ _ _ _ _ step, same rest rfl]
        exact ih (polls + 1) later still
      · rw [drive_over _ _ _ _ _ _ step]
        exact still

theorem drive_work_open (meanwhile : Nat → Telemetry → Telemetry) (left : Nat) (contexts : List Context) (work : Work)
    (polls : Nat) (span : SpanContext) (before : Nat) (t : Telemetry) (company : ∀ left, Spares span (meanwhile left))
    (spares : work.Spares span) (unfinished : t.ledger.Open span before) :
    ((scopedBy contexts (.leaf work polls)).drive meanwhile left t).2.ledger.Open span before :=
  drive_work_keeps meanwhile left contexts work polls (·.Open span before) t (fun left t => company left t before)
    (fun polls t => spares polls t before) unfinished

structure Spares (task : Task) (span : SpanContext) : Prop where
  driven : ∀ (meanwhile : Nat → Telemetry → Telemetry) (polls : Nat) (t : Telemetry) (before : Nat),
    (∀ left, RequestSpans.Spares span (meanwhile left)) → t.ledger.Open span before →
      ((Task.scoped (.of span) task).drive meanwhile polls t).2.ledger.Open span before
  dropped : ∀ (t : Telemetry) (ends : Nat), t.ledger.Closed span ends → (task.drop t).ledger.Closed span ends

theorem work_spares (work : Work) (polls : Nat) (span : SpanContext) (spares : work.Spares span) :
    (Task.leaf work polls).Spares span :=
  ⟨fun meanwhile left t before company unfinished =>
      drive_work_open meanwhile left [.of span] work polls span before t company spares unfinished,
    fun _ _ finished => finished⟩

theorem drive_congr (meanwhile others : Nat → Telemetry → Telemetry) (polls : Nat) (task : Task) (t : Telemetry)
    (same : ∀ left, left ≤ polls → meanwhile left = others left) :
    task.drive meanwhile polls t = task.drive others polls t := by
  induction polls generalizing task t with
  | zero => simp only [drive, same 0 (Nat.le_refl 0)]
  | succ polls ih =>
      simp only [drive, same (polls + 1) (Nat.le_refl _)]
      split
      · exact ih _ _ fun left bound => same left (Nat.le_succ_of_le bound)
      · rfl
      · rfl

theorem drive_guard_first (meanwhile : Nat → Telemetry → Telemetry) (polls : Nat) (guard : TerminalGuard) (inner : Task)
    (t : Telemetry) :
    (guarded guard true inner).drive meanwhile (polls + 1) t = (guarded guard false inner).drive meanwhile (polls + 1) t := by
  simp only [drive, poll]

theorem drive_guarded (meanwhile : Nat → Telemetry → Telemetry) (polls : Nat) (guard : TerminalGuard) (inner : Task)
    (t : Telemetry) (after : Ledger) :
    let bare := (Task.scoped guard.context inner).drive meanwhile polls t
    (∀ t : Telemetry, t.ledger = bare.2.ledger → (guard.conclude bare.1 t).ledger = after) →
      ((guarded guard false inner).drive meanwhile polls t).1 = bare.1 ∧
        ((guarded guard false inner).drive meanwhile polls t).2.ledger = after := by
  intro bare concludes
  exact drive_guarded_by meanwhile polls [guard] inner t after ⟨_, rfl, concludes⟩

end Task

end RequestSpans
