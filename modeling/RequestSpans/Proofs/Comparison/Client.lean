import RequestSpans.Client.Interceptor
import RequestSpans.Proofs.Comparison.Server

set_option autoImplicit false

namespace RequestSpans

def ClientCall.stakes (call : ClientCall) : List Stake := call.active?.toList.map fun active => .span active.span

namespace Pairing

variable {P : Pairing}

def Covers (P : Pairing) (w : P.World) (t : Telemetry) (mine : List Stake) : Prop := ∀ stake ∈ mine, P.covers w t stake

structure Terminals (P : Pairing) (mine : List Stake) (context : Context) (a b : Terminal) : Prop where
  holds : a.holds = b.holds
  fires : ∀ ⦃w t u⦄ (signal : Signal), P.rel w t u → P.Covers w t mine → t.current = context → u.current = context →
    P.Moves w t u (a.fire signal t) (b.fire signal u)

inductive Guards (P : Pairing) (mine : List Stake) : TerminalGuard → TerminalGuard → Prop
  | spent (context : Context) : Guards P mine ⟨context, none⟩ ⟨context, none⟩
  | armed (context : Context) (a b : Terminal) (alike : P.Terminals mine context a b) :
      Guards P mine ⟨context, some a⟩ ⟨context, some b⟩

def interceptors (P : Pairing) (a b : ClientInterceptor) : Prop :=
  ∃ chain, b = { a with decorators := chain } ∧ P.chains a.decorators chain

def actives (P : Pairing) (a b : ActiveCall) : Prop := ∃ chain, b = { a with decorators := chain } ∧ P.chains a.decorators chain

inductive Calls (P : Pairing) : ClientCall → ClientCall → Prop
  | untraced : Calls P ⟨none⟩ ⟨none⟩
  | traced (a b : ActiveCall) (alike : P.actives a b) : Calls P ⟨some a⟩ ⟨some b⟩

section Steps

variable {w : P.World} {t u t' u' : Telemetry} {mine more : List Stake}

theorem covers_none : P.Covers w t [] := fun _ member => absurd member List.not_mem_nil

theorem covers_moves (moves : P.Moves w t u t' u') (covered : P.Covers w t mine) : P.Covers w t' mine :=
  fun stake member => moves.keeps stake (covered stake member)

theorem covers_attach (context : Context) (covered : P.Covers w t mine) : P.Covers w (t.attach context) mine :=
  fun stake member => P.lasts (Telemetry.grows_same t (t.attach context) rfl) (covered stake member)

theorem terminals_more {context : Context} {a b : Terminal} (alike : P.Terminals mine context a b) (subset : mine ⊆ more) :
    P.Terminals more context a b :=
  ⟨alike.holds, fun _ _ _ signal rel covered => alike.fires signal rel fun stake member => covered stake (subset member)⟩

theorem guards_more {g h : TerminalGuard} (alike : P.Guards mine g h) (subset : mine ⊆ more) : P.Guards more g h := by
  cases alike with
  | spent context => exact .spent context
  | armed context a b terminals => exact .armed context a b (terminals_more terminals subset)

theorem guards_holds {g h : TerminalGuard} (alike : P.Guards mine g h) : g.holds = h.holds := by
  cases alike with
  | spent context => rfl
  | armed context a b terminals => simp [TerminalGuard.holds, terminals.holds]

theorem guards_context {g h : TerminalGuard} (alike : P.Guards mine g h) : g.context = h.context := by
  cases alike <;> rfl

theorem guards_armed {g h : TerminalGuard} (alike : P.Guards mine g h) : g.isArmed = h.isArmed := by
  cases alike <;> rfl

theorem moves_signal {g h : TerminalGuard} (signal : Signal) (alike : P.Guards mine g h) (rel : P.rel w t u)
    (covered : P.Covers w t mine) :
    (g.signal signal t).1 = (h.signal signal u).1 ∧ P.Guards mine (g.signal signal t).2.1 (h.signal signal u).2.1 ∧
      P.Moves w t u (g.signal signal t).2.2 (h.signal signal u).2.2 := by
  cases alike with
  | spent context => exact ⟨rfl, .spent context, moves_self rel⟩
  | armed context a b terminals =>
      have fired := terminals.fires signal (P.attach context rel) (covers_attach context covered) rfl rfl
      exact ⟨rfl, .spent context, moves_within context (fun t => ((), a.fire signal t)) (fun u => ((), b.fire signal u)) fired⟩

theorem guard_dropped (g : TerminalGuard) (t : Telemetry) :
    g.drop t = if (g.cancel t).1 then (g.cancel t).2.2.log .debug "traced future dropped before completion" []
      else (g.cancel t).2.2 := by
  rw [TerminalGuard.drop]
  rcases g.cancel t with ⟨first, after, later⟩
  cases first <;> rfl

theorem moves_guard_drop {g h : TerminalGuard} (alike : P.Guards mine g h) (rel : P.rel w t u)
    (covered : P.Covers w t mine) : P.Moves w t u (g.drop t) (h.drop u) := by
  obtain ⟨first, _, cancelled⟩ := moves_signal .cancelled alike rel covered
  rw [guard_dropped, guard_dropped, TerminalGuard.cancel, TerminalGuard.cancel, first]
  split
  · exact moves_trans cancelled (moves_log _ _ _ cancelled.rel)
  · exact cancelled

theorem active_dropped (call : ActiveCall) (t : Telemetry) :
    call.drop t = if (t.finish call.span).1 then (t.finish call.span).2.log .debug "client call dropped before completion" []
      else (t.finish call.span).2 := by
  rw [ActiveCall.drop]
  rcases t.finish call.span with ⟨first, later⟩
  cases first <;> rfl

theorem moves_active_drop {a b : ActiveCall} (alike : P.actives a b) (rel : P.rel w t u)
    (covered : P.covers w t (.span a.span)) : P.Moves w t u (a.drop t) (b.drop u) := by
  obtain ⟨chain, rfl, _⟩ := alike
  obtain ⟨first, finished⟩ := moves_finish rel covered
  rw [active_dropped, active_dropped, ← first]
  split
  · exact moves_trans finished (moves_log _ _ _ finished.rel)
  · exact finished

theorem moves_terminate {a b : ActiveCall} (signal : Signal) (alike : P.actives a b) (rel : P.rel w t u)
    (covered : P.covers w t (.span a.span)) (here : t.current = .of a.span) (there : u.current = .of a.span) :
    P.Moves w t u (a.terminate signal t) (b.terminate signal u) := by
  have same := alike
  obtain ⟨chain, rfl, chains⟩ := alike
  have decorated := moves_invoke (a.hook signal) chains rel covered here there
  have finished := moves_trans decorated (moves_finish decorated.rel (decorated.keeps _ covered)).2
  exact moves_trans finished (moves_active_drop same finished.rel (finished.keeps _ covered))

theorem active_guards {a b : ActiveCall} (alike : P.actives a b) : P.Guards [.span a.span] a.guard b.guard := by
  have same := alike
  obtain ⟨chain, rfl, chains⟩ := alike
  refine .armed (.of a.span) _ _ ⟨rfl, fun _ _ _ signal rel covered here there => ?_⟩
  exact moves_terminate signal same rel (covered _ List.mem_cons_self) here there

def abandon (call : ClientCall) (t : Telemetry) : Telemetry :=
  match call.active? with
  | some active => active.guard.drop t
  | none => t

section Calls

variable {a b : ClientCall} (alike : P.Calls a b)

include alike

theorem calls_traced : a.isTraced = b.isTraced := by
  cases alike <;> rfl

theorem calls_holds : a.holds = b.holds := by
  cases alike with
  | untraced => rfl
  | traced a b same => obtain ⟨chain, rfl, _⟩ := same; rfl

theorem calls_context (here : t.current = u.current) : a.context t = b.context u := by
  cases alike with
  | untraced => exact here
  | traced a b same => obtain ⟨chain, rfl, _⟩ := same; rfl

theorem moves_call_complete (outcome : Outcome) (rel : P.rel w t u) (covered : P.Covers w t a.stakes) :
    (a.complete outcome t).1 = (b.complete outcome u).1 ∧
      P.Moves w t u (a.complete outcome t).2 (b.complete outcome u).2 := by
  cases alike with
  | untraced => exact ⟨rfl, moves_self rel⟩
  | traced a b same => exact ⟨rfl, (moves_signal (.ofOutcome outcome) (active_guards same) rel covered).2.2⟩

theorem moves_abandon (rel : P.rel w t u) (covered : P.Covers w t a.stakes) : P.Moves w t u (abandon a t) (abandon b u) := by
  cases alike with
  | untraced => exact moves_self rel
  | traced a b same => exact moves_guard_drop (active_guards same) rel covered

theorem moves_call_drop (rel : P.rel w t u) (covered : P.Covers w t a.stakes) : P.Moves w t u (a.drop t) (b.drop u) := by
  cases alike with
  | untraced => exact moves_self rel
  | traced a b same => exact moves_active_drop same rel (covered _ List.mem_cons_self)

end Calls

theorem start_disabled (a : ClientInterceptor) (request : Request) (t : Telemetry) (disabled : a.enabled = false) :
    a.start request t = (request, ⟨none⟩, t) := by
  simp [ClientInterceptor.start, disabled]

def opening (request : Request) (t : Telemetry) : Telemetry :=
  (t.startSpan request.method .client t.current [("span.kind", .text SpanKind.client.tag)] []).2

def outgoing (inst : Instrumentation) (request : Request) (span : SpanContext) (t : Telemetry) : Request :=
  { request with headers := inst.inject (.of span) request.headers t }

theorem start_enabled (a : ClientInterceptor) (request sent : Request) (span : SpanContext) (t : Telemetry)
    (enabled : a.enabled = true) (next : t.nextContext t.current = span)
    (carried : outgoing a.instrumentation request span (opening request t) = sent) :
    a.start request t = (sent, ⟨some ⟨a.decorators, sent, span⟩⟩,
      ((opening request t).within (.of span) fun t => ((), a.decorators.invoke (.request sent) (some span) t)).2) := by
  subst next carried
  simp only [ClientInterceptor.start, enabled, Bool.not_true, Bool.false_eq_true, if_false]
  rfl

theorem moves_call_start {a b : ClientInterceptor} (request : Request) (alike : P.interceptors a b) (rel : P.rel w t u)
    (here : a.enabled = true → t.current = u.current) :
    (a.start request t).1 = (b.start request u).1 ∧ (a.start request t).1.marks = request.marks ∧
      P.Calls (a.start request t).2.1 (b.start request u).2.1 ∧
      P.Moves w t u (a.start request t).2.2 (b.start request u).2.2 ∧
      P.Covers w (a.start request t).2.2 (a.start request t).2.1.stakes := by
  obtain ⟨chain, rfl, chains⟩ := alike
  by_cases enabled : a.enabled = true
  · obtain ⟨same, started, covered⟩ := moves_start request.method .client t.current
      [("span.kind", .text SpanKind.client.tag)] [] rel
    have opened : P.Moves w t u (opening request t) (opening request u) := by
      rw [opening, opening, ← here enabled]
      exact started
    have next : u.nextContext u.current = t.nextContext t.current := by rw [← here enabled, same]
    have carried : outgoing a.instrumentation request (t.nextContext t.current) (opening request u) =
        outgoing a.instrumentation request (t.nextContext t.current) (opening request t) := by
      rw [outgoing, outgoing, Instrumentation.inject, Instrumentation.inject, propagator_same a.instrumentation opened.rel]
    have decorated := moves_round (.request (outgoing a.instrumentation request (t.nextContext t.current) (opening request t)))
      chains opened.rel covered
    rw [start_enabled a request _ _ t enabled rfl rfl,
      start_enabled { a with decorators := chain } request _ _ u enabled next carried]
    refine ⟨rfl, rfl, .traced _ _ ⟨chain, rfl, chains⟩, moves_trans opened decorated, ?_⟩
    intro stake member
    obtain rfl : stake = .span (t.nextContext t.current) := by simpa [ClientCall.stakes] using member
    exact decorated.keeps _ covered
  · have disabled : a.enabled = false := by simpa using enabled
    rw [start_disabled a request t disabled, start_disabled { a with decorators := chain } request u disabled]
    exact ⟨rfl, rfl, .untraced, moves_self rel, by simp [ClientCall.stakes, Covers]⟩

def Replies (P : Pairing) (mine : List Stake) (a b : Request → Telemetry → Option Outcome × Telemetry) : Prop :=
  ∀ ⦃w t u⦄ (request : Request), P.rel w t u → P.Covers w t mine → P.Secures w t request → t.current = u.current →
    (a request t).1 = (b request u).1 ∧ P.Moves w t u (a request t).2 (b request u).2

def replied (a : ClientInterceptor) (request : Request) (send : Request → Telemetry → Option Outcome × Telemetry)
    (t : Telemetry) : Option Outcome × Telemetry :=
  (a.start request t).2.2.within ((a.start request t).2.1.context (a.start request t).2.2) (send (a.start request t).1)

theorem execute_replied (a : ClientInterceptor) (request : Request)
    (send : Request → Telemetry → Option Outcome × Telemetry) (t : Telemetry) :
    a.execute request send t =
      match (replied a request send t).1 with
      | some outcome => (some outcome, ((a.start request t).2.1.complete outcome (replied a request send t).2).2)
      | none => (none, abandon (a.start request t).2.1 (replied a request send t).2) := by
  rw [ClientInterceptor.execute, replied]
  rcases a.start request t with ⟨sent, ⟨none_ | active⟩, opened⟩ <;> dsimp only
  · rcases opened.within ((ClientCall.mk none).context opened) (send sent) with ⟨none_ | outcome, later⟩ <;> rfl
  · rcases opened.within ((ClientCall.mk (some active)).context opened) (send sent) with ⟨none_ | outcome, later⟩ <;> rfl

section Blocking

variable {a b : ClientInterceptor} {request : Request} {send other : Request → Telemetry → Option Outcome × Telemetry}
  (alike : P.interceptors a b) (replies : P.Replies mine send other) (rel : P.rel w t u) (covered : P.Covers w t mine)
  (secure : P.Secures w t request) (here : t.current = u.current)

include alike replies rel covered secure here

theorem moves_replied :
    (replied a request send t).1 = (replied b request other u).1 ∧
      P.Moves w t u (replied a request send t).2 (replied b request other u).2 ∧
      P.Covers w (replied a request send t).2 (a.start request t).2.1.stakes := by
  obtain ⟨sent, marks, calls, started, stakes⟩ := moves_call_start request alike rel fun _ => here
  have same := calls_context calls (moves_current started here)
  have secured : P.Secures w (a.start request t).2.2 (a.start request t).1 :=
    secures_same (secures_moves started secure) (congrArg Marks.spans marks)
  obtain ⟨outcome, answered⟩ := replies (a.start request t).1
    (P.attach ((a.start request t).2.1.context (a.start request t).2.2) started.rel)
    (covers_attach _ (covers_moves started covered)) (fun span member => (moves_attached _ started.rel (secured span member)).2)
    (Telemetry.current_attach _ _ _)
  rw [replied, replied, ← same, ← sent]
  exact ⟨outcome, moves_trans started (moves_within _ _ _ answered), covers_moves (moves_within _ _ _ answered) stakes⟩

theorem moves_execute :
    (a.execute request send t).1 = (b.execute request other u).1 ∧
      P.Moves w t u (a.execute request send t).2 (b.execute request other u).2 := by
  obtain ⟨_, _, calls, _, _⟩ := moves_call_start request alike rel fun _ => here
  obtain ⟨outcomes, moves, stakes⟩ := moves_replied alike replies rel covered secure here
  rw [execute_replied, execute_replied, ← outcomes]
  cases (replied a request send t).1 with
  | some outcome => exact ⟨rfl, moves_trans moves (moves_call_complete calls outcome moves.rel stakes).2⟩
  | none => exact ⟨rfl, moves_trans moves (moves_abandon calls moves.rel stakes)⟩

end Blocking

end Steps

end Pairing

end RequestSpans
