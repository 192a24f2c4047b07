import RequestSpans.Proofs.Panics.Scenario

set_option autoImplicit false

namespace RequestSpans

section Mutes

variable {crew : List Decorator} {bridged : Bool} {tape : Tape} {t u : Telemetry}

def Tape.from (t u : Telemetry) : Tape := ⟨t.bridged, t.journal, u.journal⟩

theorem hears_from (hears : tape.Hears crew t u) : (Tape.from t u).Hears crew t u := by
  have linked := hears.aligned.linked
  refine ⟨?_, [], [], by simp [Tape.from], by simp [Tape.from], .nil⟩
  rw [Tape.from, linked]
  exact hears.aligned

end Mutes

end RequestSpans

namespace RequestSpans.Scenario

def Session.after (s : Session) (steps : List Step) : Session := steps.foldl (fun s step => (s.run step).2.2) s

section Keeping

variable {crew : List Decorator} {tape : Tape} {s q : Session}

def keep (s : Session) (entry : Entry) : Session :=
  match entry with
  | .received request _ _ _ (some name) => s.bindRequest name { request with body := "" }
  | _ => s

theorem hushes_keep (same : Hushes crew tape s q) (entry : Entry) : Hushes crew tape (keep s entry) (keep q entry) := by
  unfold keep
  split
  · exact hushes_bind_request same _ _
  · exact same

theorem keep_failures (s : Session) (decorator : Decorator) (hook : Hook) : (decorator.failures hook).foldl keep s = s := by
  unfold Decorator.failures
  cases (decorator.react hook).panic? <;> rfl

theorem hushes_kept {loud quiet : List Entry} {bridged : Bool} (mutes : Mutes crew bridged loud quiet)
    (same : Hushes crew tape s q) : Hushes crew tape (s.bindKept loud) (q.bindKept quiet) := by
  have kept : Hushes crew tape (loud.foldl keep s) (quiet.foldl keep q) := by
    induction mutes with
    | nil => exact same
    | snoc loud quiet last last' before one ih =>
        rw [List.foldl_append, List.foldl_append]
        cases one with
        | called decorator hook sight? member =>
            rw [List.foldl_cons, keep_failures]
            exact ih
        | ended loud quiet muted => exact ih
        | other entry plain => exact hushes_keep ih entry
  exact kept

end Keeping

section Runs

variable {crew : List Decorator} {tape : Tape} {s q : Session}

theorem hushes_holds (same : Hushes crew tape s q) : s.holds = q.holds := by
  have ambient : s.telemetry.ambient = q.telemetry.ambient :=
    Telemetry.aligned_reads same.hears.aligned Telemetry.ambient fun _ => rfl
  have calls := Bindings.alike_spans ClientCall.holds same.calls fun _ _ => Pairing.calls_holds
  have tasks := Bindings.alike_spans Task.holds same.tasks fun _ _ ⟨_, _, tasks⟩ => Pairing.tasks_holds tasks
  have guards := Bindings.alike_spans TerminalGuard.holds same.guards fun _ _ => Pairing.guards_holds
  rw [Session.holds, Session.holds, same.requests, same.contexts, calls, tasks, guards, ambient]

theorem hushes_with_holds (same : Hushes crew tape s q) : Hushes crew tape s.withHolds q.withHolds := by
  have bare : ({ s.telemetry with held := [] }.hold s.holds).bare = ({ q.telemetry with held := [] }.hold q.holds).bare := by
    rw [hushes_holds same]
    exact congrArg (fun bare : Telemetry => { bare with held := [] }.hold q.holds) same.hears.aligned.bare
  have aligned := Telemetry.aligned_same same.hears.aligned bare rfl rfl rfl fun _ member => member
  exact hushes_same same (Tape.hears_same same.hears aligned rfl rfl) rfl

theorem release_contexts (t : Telemetry) : t.releaseUnheld = (t.spans.map Span.context).foldl Telemetry.release t :=
  List.foldl_map.symm

theorem aligned_contexts {bridged : Bool} {t u : Telemetry} (same : Telemetry.Aligned bridged t u) :
    t.spans.map Span.context = u.spans.map Span.context := by
  refine List.ext_getElem? fun index => ?_
  have rel := same.records index
  rw [List.getElem?_map, List.getElem?_map]
  generalize t.spans[index]? = loud? at rel ⊢
  generalize u.spans[index]? = quiet? at rel ⊢
  cases rel with
  | none => rfl
  | some muted => exact congrArg some (Span.muted_context muted)

theorem hushes_release (same : Hushes crew tape s q) :
    Hushes crew tape { s with telemetry := s.telemetry.releaseUnheld } { q with telemetry := q.telemetry.releaseUnheld } := by
  rw [release_contexts, release_contexts, aligned_contexts same.hears.aligned]
  exact hushes_moves same (Pairing.moves_releases _ (hushes_rel same) fun span _ => covers_span s.telemetry span)

theorem hushes_ambient (same : Hushes crew tape s q) (ambient : List Context) :
    Hushes crew tape { s with telemetry := { s.telemetry with ambient := ambient } }
      { q with telemetry := { q.telemetry with ambient := ambient } } := by
  have bare : ({ s.telemetry with ambient := ambient } : Telemetry).bare = ({ q.telemetry with ambient := ambient } : Telemetry).bare :=
    congrArg (fun bare : Telemetry => { bare with ambient := ambient }) same.hears.aligned.bare
  have aligned := Telemetry.aligned_same same.hears.aligned bare rfl rfl rfl fun _ member => member
  exact hushes_same same (Tape.hears_same same.hears aligned rfl rfl) rfl

theorem tells_apart (same : Hushes crew tape s q) (action : Action) :
    Tells crew tape (s.performApart action) (q.performApart action) := by
  obtain ⟨result, after⟩ := tells_perform (hushes_ambient same []) action
  have ambient : s.telemetry.ambient = q.telemetry.ambient :=
    Telemetry.aligned_reads same.hears.aligned Telemetry.ambient fun _ => rfl
  refine ⟨result, ?_⟩
  rw [Session.performApart, Session.performApart, ← ambient]
  exact hushes_ambient after s.telemetry.ambient

theorem hushes_new (same : Hushes crew tape s q) : Mutes crew tape.bridged (s.telemetry.journal.drop tape.loud.length)
    (q.telemetry.journal.drop tape.quiet.length) := by
  obtain ⟨loud, quiet, journal, journal', mutes⟩ := same.hears.heard
  rw [journal, journal', List.drop_left, List.drop_left]
  exact mutes

theorem hushes_from (same : Hushes crew tape s q) : Hushes crew (.from s.telemetry q.telemetry) s q := by
  have linked := same.hears.aligned.linked
  refine { same with hears := hears_from same.hears, tasks := ?_ }
  refine Bindings.alike_weaken same.tasks fun a b ⟨mine, covered, tasks⟩ => ⟨mine, fun stake member => ?_, tasks⟩
  have known := covered stake member
  cases stake with
  | tracer tracer => exact ⟨linked.trans known.1, known.2⟩
  | _ => trivial

theorem tells_run (same : Hushes crew tape s q) (step : Step) :
    (s.run step).1 = (q.run step).1 ∧ Mutes crew tape.bridged (s.run step).2.1 (q.run step).2.1 ∧
      Hushes crew (.from s.telemetry q.telemetry) (s.run step).2.2 (q.run step).2.2 := by
  have linked := same.hears.aligned.linked
  have ready := hushes_with_holds (hushes_from same)
  have done : Tells crew (.from s.telemetry q.telemetry)
      (if step.onFreshThread then s.withHolds.performApart step.action else s.withHolds.perform step.action)
      (if step.onFreshThread then q.withHolds.performApart step.action else q.withHolds.perform step.action) := by
    split
    · exact tells_apart ready step.action
    · exact tells_perform ready step.action
  unfold Session.run
  dsimp only
  generalize (if step.onFreshThread then s.withHolds.performApart step.action else s.withHolds.perform step.action) = loud at done ⊢
  generalize (if step.onFreshThread then q.withHolds.performApart step.action else q.withHolds.perform step.action) = quiet at done ⊢
  obtain ⟨result, after⟩ := done
  have kept := hushes_release (hushes_with_holds (hushes_kept (hushes_new after) after))
  have news := hushes_new kept
  rw [Tape.from, linked] at news
  exact ⟨result, news, kept⟩

theorem hushes_run_all (same : Hushes crew tape s q) (steps : List Step) :
    List.Forall₂ (fun loud quiet : Result × List Entry => loud.1 = quiet.1 ∧ Mutes crew tape.bridged loud.2 quiet.2)
        (s.runAll steps) (q.runAll steps) ∧
      ∃ tape', tape'.bridged = tape.bridged ∧ Hushes crew tape' (s.after steps) (q.after steps) := by
  induction steps generalizing tape s q with
  | nil => exact ⟨.nil, tape, rfl, same⟩
  | cons step rest ih =>
      obtain ⟨result, news, after⟩ := tells_run same step
      obtain ⟨results, tape', linked, later⟩ := ih after
      have bridged : (Tape.from s.telemetry q.telemetry).bridged = tape.bridged := same.hears.aligned.linked
      rw [bridged] at results linked
      exact ⟨.cons ⟨result, news⟩ results, tape', linked, later⟩

end Runs

-- What two runs are left with: the same, but for notes of failures on local
-- spans.
structure EndsAlike (bridged : Bool) (s q : Session) : Prop where
  requests : q.requests = s.requests
  contexts : q.contexts = s.contexts
  ambient : q.telemetry.ambient = s.telemetry.ambient
  spans : ∀ index : Nat, Option.Rel (Span.Muted bridged) s.telemetry.spans[index]? q.telemetry.spans[index]?

theorem panics_are_only_logged (tracing : Tracing) (installed : Propagator) (bridged : Bool) (sampler : Sampler)
    (steps : List Step) :
    let loud := Session.start tracing (.start installed bridged sampler)
    let quiet := Session.start tracing.hushed (.start installed bridged sampler)
    List.Forall₂ (fun a b : Result × List Entry => a.1 = b.1 ∧ Mutes tracing.crew bridged a.2 b.2)
        (loud.runAll steps) (quiet.runAll steps) ∧
      EndsAlike bridged (loud.after steps) (quiet.after steps) ∧
      ∀ (chain : DecoratorChain) (hook : Hook) (span? : Option SpanContext) (t : Telemetry),
        (chain.invoke hook span? t).ledger = t.ledger.note (chain.milestones hook span?) := by
  intro loud quiet
  have aligned : Telemetry.Aligned bridged (.start installed bridged sampler) (.start installed bridged sampler) :=
    ⟨rfl, rfl, fun _ => .none, fun _ member => absurd member List.not_mem_nil⟩
  have same : Hushes tracing.crew ⟨bridged, [], []⟩ loud quiet :=
    ⟨rfl, rfl, ⟨aligned, [], [], rfl, rfl, .nil⟩, rfl, rfl, rfl, .nil, .nil, .nil, .nil⟩
  obtain ⟨results, tape, linked, after⟩ := hushes_run_all same steps
  refine ⟨results, ⟨after.requests, after.contexts, ?_, ?_⟩, DecoratorChain.ledger_invoke⟩
  · exact (Telemetry.aligned_reads after.hears.aligned Telemetry.ambient fun _ => rfl).symm
  · rw [← show tape.bridged = bridged from linked]
    exact after.hears.aligned.records

def panicky : Tracing :=
  let inst : Instrumentation := ⟨some .traceContext⟩
  let failing : Decorator := ⟨"failing", true, fun hook => ⟨[], if hook.name = "on_error" then some (.text "boom") else none⟩⟩
  ⟨inst, .standard inst, ⟨inst, ⟨[failing]⟩, true⟩, HandlerCoordinator.standardDecorators⟩

def failedCall : List Step :=
  [⟨.service "orders" [.localSpan, .client] ⟨⟨"orders", 0, .fault ⟨"refused", []⟩, false, none⟩, [], none, false⟩, false⟩,
    ⟨.call "orders" "call" (.draft ⟨"GET", "http://shop.test/orders", .http11, [], ""⟩), false⟩, ⟨.poll "call", false⟩]

def endStatuses (tracing : Tracing) : List (String × SpanStatus) :=
  ((Session.start tracing (.start .silent true)).runAll failedCall).flatMap fun outcome => outcome.2.filterMap fun
    | .ended span => some (span.name, span.status)
    | _ => none

-- The log of the panic makes an error of the local span.
theorem failure_noted_on_local_span : endStatuses panicky = [("GET", .unset), ("request", .error "")] ∧
    endStatuses panicky.hushed = [("GET", .unset), ("request", .unset)] := by
  constructor <;> rfl

end RequestSpans.Scenario
