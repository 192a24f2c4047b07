import RequestSpans.Proofs.Comparison.LocalSpan
import RequestSpans.Task

set_option autoImplicit false

namespace RequestSpans

-- Whether a task has to do with the ambient context at its next poll: it opens a
-- span below that, or runs code in it.
def Task.exposed : Task → Bool
  | .leaf _ _ => true
  | .scoped _ _ => false
  | .guarded _ _ _ => false
  | .lazyCall _ _ _ => true
  | .localized _ inner => inner.exposed

namespace Pairing

variable {P : Pairing}

def Works (P : Pairing) (mine : List Stake) (a b : Work) : Prop :=
  ∀ ⦃w t u⦄ (polls : Nat), P.rel w t u → P.Covers w t mine → t.current = u.current →
    (a.poll polls t).1 = (b.poll polls u).1 ∧ P.Moves w t u (a.poll polls t).2 (b.poll polls u).2

structure Hands (P : Pairing) (w : P.World) (t u : Telemetry) (a b : Option Work × Telemetry) (stakes : List Stake) : Prop where
  works : Option.Rel (P.Works stakes) a.1 b.1
  moves : P.Moves w t u a.2 b.2
  covered : P.Covers w a.2 stakes

def Sends (P : Pairing) (mine : List Stake) (a b : Request → Telemetry → Option Work × Telemetry) : Prop :=
  ∀ ⦃w t u⦄ (request : Request), P.rel w t u → P.Covers w t mine → P.Secures w t request → t.current = u.current →
    ∃ stakes, P.Hands w t u (a request t) (b request u) stakes

inductive Tasks (P : Pairing) (mine : List Stake) : Task → Task → Prop
  | leaf (a b : Work) (polls : Nat) (works : P.Works mine a b) : Tasks P mine (.leaf a polls) (.leaf b polls)
  | inside (context : Context) (a b : Task) (inner : Tasks P mine a b) : Tasks P mine (.scoped context a) (.scoped context b)
  | guarded (g h : TerminalGuard) (first : Bool) (a b : Task) (guards : P.Guards mine g h) (inner : Tasks P mine a b) :
      Tasks P mine (.guarded g first a) (.guarded h first b)
  | lazyCall (i j : ClientInterceptor) (request : Request) (send other : Request → Telemetry → Option Work × Telemetry)
      (alike : P.interceptors i j) (held : ∀ span ∈ request.marks.spans, .span span ∈ mine) (sends : P.Sends mine send other) :
      Tasks P mine (.lazyCall i request send) (.lazyCall j request other)
  | localized (span : LocalSpan) (a b : Task) (headed : P.heads span.attributes) (held : span.stakes ⊆ mine)
      (inner : Tasks P mine a b) : Tasks P mine (.localized span a) (.localized span b)

inductive Results (P : Pairing) (mine : List Stake) : Polled → Polled → Prop
  | pending (a b : Task) (rest : P.Tasks mine a b) : Results P mine (.pending a) (.pending b)
  | ready (outcome : Outcome) : Results P mine (.ready outcome) (.ready outcome)
  | panicked : Results P mine .panicked .panicked

section Building

variable {mine more : List Stake}

theorem works_more {a b : Work} (works : P.Works mine a b) (subset : mine ⊆ more) : P.Works more a b :=
  fun _ _ _ polls rel covered => works polls rel fun stake member => covered stake (subset member)

theorem sends_more {send other : Request → Telemetry → Option Work × Telemetry} (sends : P.Sends mine send other)
    (subset : mine ⊆ more) : P.Sends more send other :=
  fun _ _ _ request rel covered => sends request rel fun stake member => covered stake (subset member)

theorem tasks_more {a b : Task} (alike : P.Tasks mine a b) (subset : mine ⊆ more) : P.Tasks more a b := by
  induction alike with
  | leaf a b polls works => exact .leaf a b polls (works_more works subset)
  | inside context a b inner ih => exact .inside context a b ih
  | guarded g h first a b guards inner ih => exact .guarded g h first a b (guards_more guards subset) ih
  | lazyCall i j request send other alike held sends =>
      exact .lazyCall i j request send other alike (fun span member => subset (held span member)) (sends_more sends subset)
  | localized span a b headed held inner ih => exact .localized span a b headed (fun stake member => subset (held member)) ih

theorem results_more {a b : Polled} (alike : P.Results mine a b) (subset : mine ⊆ more) : P.Results more a b := by
  cases alike with
  | pending a b rest => exact .pending a b (tasks_more rest subset)
  | ready outcome => exact .ready outcome
  | panicked => exact .panicked

theorem tasks_holds {a b : Task} (alike : P.Tasks mine a b) : a.holds = b.holds := by
  induction alike with
  | leaf a b polls works => rfl
  | inside context a b inner ih => simp only [Task.holds, ih]
  | guarded g h first a b guards inner ih => simp only [Task.holds, ih, guards_holds guards]
  | lazyCall i j request send other alike held sends => rfl
  | localized span a b headed held inner ih => simp only [Task.holds, ih]

theorem tasks_instrument {a b : ClientCall} {inner other : Task} (calls : P.Calls a b) (stakes : a.stakes ⊆ mine)
    (alike : P.Tasks mine inner other) : P.Tasks mine (a.instrument inner) (b.instrument other) := by
  cases calls with
  | untraced => exact alike
  | traced a b same => exact .guarded _ _ true _ _ (guards_more (active_guards same) stakes) alike

end Building

structure Polls (P : Pairing) (w : P.World) (t u : Telemetry) (a b : Polled × Telemetry) (stakes : List Stake) : Prop where
  results : P.Results stakes a.1 b.1
  moves : P.Moves w t u a.2 b.2
  covered : P.Covers w a.2 stakes

section Steps

variable {w : P.World} {t u : Telemetry} {mine : List Stake}

theorem moves_poll_work {a b : Work} (polls : Nat) (works : P.Works mine a b) (rel : P.rel w t u)
    (covered : P.Covers w t mine) (here : t.current = u.current) :
    P.Polls w t u (Task.pollWork a polls t) (Task.pollWork b polls u) mine := by
  obtain ⟨same, moves⟩ := works polls rel covered here
  rcases first : a.poll polls t with ⟨progress, later⟩
  rcases second : b.poll polls u with ⟨progress', later'⟩
  rw [first, second] at same moves
  obtain rfl : progress = progress' := same
  have kept := covers_moves moves covered
  cases progress with
  | pending =>
      simp only [Task.pollWork, first, second]
      exact ⟨.pending _ _ (.leaf a b (polls + 1) works), moves, kept⟩
  | ready outcome =>
      simp only [Task.pollWork, first, second]
      exact ⟨.ready outcome, moves, kept⟩
  | panicked =>
      simp only [Task.pollWork, first, second]
      exact ⟨.panicked, moves, kept⟩

theorem moves_settle {g h : TerminalGuard} {a b : Polled × Telemetry} {stakes : List Stake} (guards : P.Guards stakes g h)
    (polls : P.Polls w t u a b stakes) : P.Polls w t u (Task.settle g a) (Task.settle h b) stakes := by
  obtain ⟨result, later⟩ := a
  obtain ⟨result', later'⟩ := b
  obtain ⟨results, moves, covered⟩ := polls
  cases results with
  | pending a b rest => exact ⟨.pending _ _ (.guarded g h false a b guards rest), moves, covered⟩
  | ready outcome =>
      have signalled := (moves_signal (.ofOutcome outcome) guards moves.rel covered).2.2
      exact ⟨.ready outcome, moves_trans moves signalled, covers_moves signalled covered⟩
  | panicked =>
      have dropped := moves_guard_drop guards moves.rel covered
      exact ⟨.panicked, moves_trans moves dropped, covers_moves dropped covered⟩

theorem moves_settle_local {span : LocalSpan} {a b : Polled × Telemetry} {stakes : List Stake}
    (enters : P.Enters w t u span) (held : (span.enter t).1.stakes ⊆ stakes)
    (polls : P.Polls w (span.enter t).2 (span.enter u).2 a b stakes) :
    P.Polls w t u (Task.settleLocal (span.enter t).1 a) (Task.settleLocal (span.enter u).1 b) stakes := by
  obtain ⟨result, later⟩ := a
  obtain ⟨result', later'⟩ := b
  obtain ⟨results, moves, covered⟩ := polls
  cases results with
  | pending a b rest =>
      have left := enters.leaves later later' moves
      have outside := covers_exit (span.enter t).1 covered
      rw [← enters.same] at left ⊢
      exact ⟨.pending _ _ (.localized _ a b enters.localizes.headed held rest), left, outside⟩
  | ready outcome =>
      cases outcome with
      | ok response =>
          have answered := moves_on_response .info "*" response.status (localizes_moves moves enters.localizes) moves.rel
          obtain ⟨closed, kept⟩ := moves_leave enters (moves_trans moves answered) (covers_moves answered covered)
          rw [← enters.same] at closed ⊢
          exact ⟨.ready _, closed, kept⟩
      | error fault =>
          obtain ⟨closed, kept⟩ := moves_leave enters moves covered
          exact ⟨.ready _, closed, kept⟩
  | panicked =>
      obtain ⟨closed, kept⟩ := moves_leave enters moves covered
      exact ⟨.panicked, closed, kept⟩

def sentCall (a : ClientInterceptor) (request : Request) (send : Request → Telemetry → Option Work × Telemetry)
    (t : Telemetry) : Option Work × Telemetry :=
  (a.start request t).2.2.within ((a.start request t).2.1.context (a.start request t).2.2) (send (a.start request t).1)

def pollSent (call : ClientCall) (sent : Option Work × Telemetry) : Polled × Telemetry :=
  match sent.1, call.active? with
  | none, _ => (.panicked, call.drop sent.2)
  | some work, none => Task.pollWork work 0 sent.2
  | some work, some active => Task.settle active.guard (sent.2.within (.of active.span) fun t => Task.pollWork work 0 t)

theorem poll_call_sent (a : ClientInterceptor) (request : Request) (send : Request → Telemetry → Option Work × Telemetry)
    (t : Telemetry) : Task.pollCall a request send t = pollSent (a.start request t).2.1 (sentCall a request send t) := by
  rw [Task.pollCall, sentCall]
  rcases a.start request t with ⟨sent, ⟨none_ | active⟩, opened⟩ <;> dsimp only
  · rcases opened.within ((ClientCall.mk none).context opened) (send sent) with ⟨none_ | work, later⟩ <;> rfl
  · rcases opened.within ((ClientCall.mk (some active)).context opened) (send sent) with ⟨none_ | work, later⟩ <;> rfl

theorem polls_within {a b : Telemetry → Polled × Telemetry} {stakes : List Stake} (context : Context)
    (polls : P.Polls w (t.attach context) (u.attach context) (a (t.attach context)) (b (u.attach context)) stakes) :
    P.Polls w t u (t.within context a) (u.within context b) stakes := by
  refine ⟨polls.results, moves_within context a b polls.moves, fun stake member => ?_⟩
  exact P.lasts (Telemetry.grows_same (a (t.attach context)).2 _ rfl) (polls.covered stake member)

theorem polls_trans {between between' : Telemetry} {a b : Polled × Telemetry} {stakes : List Stake}
    (early : P.Moves w t u between between') (polls : P.Polls w between between' a b stakes) : P.Polls w t u a b stakes :=
  ⟨polls.results, moves_trans early polls.moves, polls.covered⟩

theorem polls_more {a b : Polled × Telemetry} {stakes : List Stake} (polls : P.Polls w t u a b stakes)
    (covered : P.Covers w a.2 mine) : P.Polls w t u a b (mine ++ stakes) := by
  refine ⟨results_more polls.results (List.subset_append_right mine stakes), polls.moves, fun stake member => ?_⟩
  exact (List.mem_append.mp member).elim (covered stake) (polls.covered stake)

theorem moves_poll_sent {a b : ClientCall} {x y : Option Work × Telemetry} {stakes : List Stake} (calls : P.Calls a b)
    (hands : P.Hands w t u x y stakes) (covered : P.Covers w x.2 a.stakes) (here : t.current = u.current) :
    P.Polls w t u (pollSent a x) (pollSent b y) (a.stakes ++ stakes) := by
  obtain ⟨work?, later⟩ := x
  obtain ⟨work?', later'⟩ := y
  obtain ⟨works, moves, handed⟩ := hands
  have all : P.Covers w later (a.stakes ++ stakes) := by
    intro stake member
    exact (List.mem_append.mp member).elim (covered stake) (handed stake)
  cases works with
  | none =>
      have dropped := moves_call_drop calls moves.rel covered
      exact ⟨.panicked, moves_trans moves dropped, covers_moves dropped all⟩
  | some works =>
      have wider := works_more works (List.subset_append_right a.stakes stakes)
      cases calls with
      | untraced => exact polls_trans moves (moves_poll_work 0 wider moves.rel all (moves_current moves here))
      | traced a b same =>
          obtain ⟨chain, rfl, _⟩ := id same
          have polled := moves_poll_work 0 wider (P.attach (.of a.span) moves.rel) (covers_attach (.of a.span) all)
            (Telemetry.current_attach _ _ _)
          exact polls_trans moves (moves_settle (guards_more (active_guards same) (List.subset_append_left _ _))
            (polls_within (.of a.span) polled))

theorem moves_poll_call {a b : ClientInterceptor} {request : Request} {send other : Request → Telemetry → Option Work × Telemetry}
    (alike : P.interceptors a b) (sends : P.Sends mine send other) (rel : P.rel w t u) (covered : P.Covers w t mine)
    (secure : P.Secures w t request) (here : t.current = u.current) :
    ∃ stakes, mine ⊆ stakes ∧ P.Polls w t u (Task.pollCall a request send t) (Task.pollCall b request other u) stakes := by
  obtain ⟨sent, marks, calls, started, stakes⟩ := moves_call_start request alike rel fun _ => here
  have same := calls_context calls (moves_current started here)
  have secured : P.Secures w (a.start request t).2.2 (a.start request t).1 :=
    secures_same (secures_moves started secure) (congrArg Marks.spans marks)
  obtain ⟨more, hands⟩ := sends (a.start request t).1
    (P.attach ((a.start request t).2.1.context (a.start request t).2.2) started.rel)
    (covers_attach _ (covers_moves started covered)) (fun span member => (moves_attached _ started.rel (secured span member)).2)
    (Telemetry.current_attach _ _ _)
  have handed : P.Hands w t u (sentCall a request send t) (sentCall b request other u) more ∧
      P.Covers w (sentCall a request send t).2 (a.start request t).2.1.stakes := by
    have moves := moves_within _ _ _ hands.moves
    rw [sentCall, sentCall, ← same, ← sent]
    refine ⟨⟨hands.works, moves_trans started moves, fun stake member => ?_⟩, covers_moves moves stakes⟩
    exact P.lasts (Telemetry.grows_same (send _ _).2 _ rfl) (hands.covered stake member)
  rw [poll_call_sent, poll_call_sent]
  have polls := moves_poll_sent calls handed.1 handed.2 here
  exact ⟨_, List.subset_append_left _ _, polls_more polls (covers_moves polls.moves covered)⟩

def insideOf (context : Context) : Polled × Telemetry → Polled × Telemetry
  | (.pending rest, t) => (.pending (.scoped context rest), t)
  | other => other

theorem poll_inside (context : Context) (inner : Task) (t : Telemetry) :
    (Task.scoped context inner).poll t = insideOf context (t.within context fun t => inner.poll t) := by
  rw [Task.poll]
  rcases t.within context fun t => inner.poll t with ⟨rest | outcome | _, later⟩ <;> rfl

theorem moves_inside {a b : Polled × Telemetry} {stakes : List Stake} (context : Context)
    (polls : P.Polls w t u a b stakes) : P.Polls w t u (insideOf context a) (insideOf context b) stakes := by
  obtain ⟨result, later⟩ := a
  obtain ⟨result', later'⟩ := b
  obtain ⟨results, moves, covered⟩ := polls
  cases results with
  | pending a b rest => exact ⟨.pending _ _ (.inside context a b rest), moves, covered⟩
  | ready outcome => exact ⟨.ready outcome, moves, covered⟩
  | panicked => exact ⟨.panicked, moves, covered⟩

-- By induction on how the tasks are built. Only an exposed task needs the
-- ambient context; all others make a context of their own current first.
theorem moves_poll {a b : Task} (alike : P.Tasks mine a b) (rel : P.rel w t u) (covered : P.Covers w t mine)
    (here : a.exposed = true → t.current = u.current) :
    ∃ stakes, mine ⊆ stakes ∧ P.Polls w t u (a.poll t) (b.poll u) stakes := by
  induction alike generalizing t u with
  | leaf a b polls works =>
      exact ⟨mine, fun _ member => member, moves_poll_work polls works rel covered (here rfl)⟩
  | inside context a b inner ih =>
      obtain ⟨stakes, subset, polls⟩ := ih (P.attach context rel) (covers_attach context covered)
        fun _ => Telemetry.current_attach _ _ _
      rw [poll_inside, poll_inside]
      exact ⟨stakes, subset, moves_inside context (polls_within context polls)⟩
  | guarded g h first a b guards inner ih =>
      obtain ⟨stakes, subset, polls⟩ := ih (P.attach g.context rel) (covers_attach g.context covered)
        fun _ => Telemetry.current_attach _ _ _
      have settled := moves_settle (guards_more guards subset) (polls_within g.context polls)
      rw [Task.poll, Task.poll, ← guards_context guards]
      exact ⟨stakes, subset, settled⟩
  | lazyCall i j request send other alike held sends =>
      exact moves_poll_call alike sends rel covered (fun span member => covered _ (held span member)) (here rfl)
  | localized span a b headed held inner ih =>
      have enters := moves_entering ⟨headed, fun stake member => covered stake (held member)⟩ rel
      obtain ⟨stakes, subset, polls⟩ := ih enters.rel (fun stake member => enters.keeps stake (covered stake member))
        fun exposed => enters.current (here exposed)
      have mine_ := covers_moves polls.moves enters.localizes.covered
      have settled := moves_settle_local enters (List.subset_append_left _ stakes) (polls_more polls mine_)
      exact ⟨(span.enter t).1.stakes ++ stakes, fun stake member => List.mem_append_right _ (subset member), settled⟩

theorem moves_drop {a b : Task} (alike : P.Tasks mine a b) (rel : P.rel w t u) (covered : P.Covers w t mine) :
    P.Moves w t u (a.drop t) (b.drop u) := by
  induction alike generalizing t u with
  | leaf a b polls works => exact moves_self rel
  | inside context a b inner ih => exact ih rel covered
  | guarded g h first a b guards inner ih =>
      cases first with
      | true =>
          have ended := moves_guard_drop guards rel covered
          exact moves_trans ended (ih ended.rel (covers_moves ended covered))
      | false =>
          have dropped := ih rel covered
          exact moves_trans dropped (moves_guard_drop guards dropped.rel (covers_moves dropped covered))
  | lazyCall i j request send other alike held sends => exact moves_self rel
  | localized span a b headed held inner ih =>
      have dropped := ih rel covered
      have still : P.Covers w (a.drop t) mine := covers_moves dropped covered
      exact moves_trans dropped (moves_local_close ⟨headed, fun stake member => still stake (held member)⟩ dropped.rel)

end Steps

end Pairing

end RequestSpans
