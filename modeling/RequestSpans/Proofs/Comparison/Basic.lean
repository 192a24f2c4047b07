import RequestSpans.Proofs.Comparison.Records
import RequestSpans.Proofs.Server.Coordinator

/-!
Two runs side by side. A pairing says how the telemetry of one run compares to that of the other,
and that this outlasts the primitive steps of the tracer on both sides; whatever is put together of
these steps then keeps it as well, and leaves the ambient contexts as it found them.
-/
set_option autoImplicit false

namespace RequestSpans

namespace Telemetry

theorem ambient_bare {t u : Telemetry} (same : t.bare = u.bare) : t.ambient = u.ambient := by
  have ambient := congrArg Telemetry.ambient same
  exact ambient

section Frames

variable (t : Telemetry)

@[simp] theorem ambient_alter (span : SpanContext) (change : Span → Span) : (t.alter span change).ambient = t.ambient :=
  ambient_bare (t.bare_alter span change)

@[simp] theorem ambient_act (span : SpanContext) (actions : List SpanAction) : (t.act span actions).ambient = t.ambient :=
  ambient_bare (t.bare_act span actions)

@[simp] theorem ambient_log (level : LogLevel) (message : String) (fields : List (String × String)) :
    (t.log level message fields).ambient = t.ambient := ambient_bare (t.bare_log level message fields)

@[simp] theorem ambient_end (span : SpanContext) : (t.endSpan span).ambient = t.ambient :=
  ambient_bare (t.bare_end span)

@[simp] theorem journal_alter (span : SpanContext) (change : Span → Span) : (t.alter span change).journal = t.journal := by
  unfold alter
  split <;> rfl

@[simp] theorem journal_act (span : SpanContext) (actions : List SpanAction) : (t.act span actions).journal = t.journal := by
  unfold act
  induction actions generalizing t with
  | nil => rfl
  | cons action rest ih => rw [List.foldl_cons, ih, update, journal_alter]

@[simp] theorem journal_log (level : LogLevel) (message : String) (fields : List (String × String)) :
    (t.log level message fields).journal = t.journal ++ [.logged ⟨level, message, fields⟩] := by
  unfold log
  dsimp only
  split
  · rfl
  · split <;> simp [update, record]

theorem current_attach (u : Telemetry) (context : Context) : (t.attach context).current = (u.attach context).current := rfl

end Frames

end Telemetry

namespace DecoratorChain

theorem ambient_run_one (hook : Hook) (span? : Option SpanContext) (t : Telemetry) (decorator : Decorator) :
    (runOne hook span? t decorator).ambient = t.ambient :=
  Telemetry.ambient_bare (bare_run_one hook span? t decorator)

@[simp] theorem ambient_invoke (chain : DecoratorChain) (hook : Hook) (span? : Option SpanContext) (t : Telemetry) :
    (chain.invoke hook span? t).ambient = t.ambient := Telemetry.ambient_bare (chain.bare_invoke hook span? t)

end DecoratorChain

namespace HandlerCoordinator

theorem ambient_report (coordinator : HandlerCoordinator) (handler : Handler) (t : Telemetry) :
    (coordinator.reportMissing handler t).ambient = t.ambient := by
  unfold reportMissing
  split
  · rfl
  · exact Telemetry.ambient_log _ _ _ _

end HandlerCoordinator

-- What an operation needs besides the telemetry: spans that it may change, tracer
-- spans of local spans among them; to open local spans at all; and to come upon
-- requests that no server span was looked for.
inductive Stake where
  | span (span : SpanContext)
  | tracer (span : SpanContext)
  | localSpans
  | missing
deriving DecidableEq

-- How two runs compare: their telemetries, in a world of which nothing else need
-- be known, their decorators, and the attributes with which local spans start.
structure Pairing where
  World : Type
  rel : World → Telemetry → Telemetry → Prop
  covers : World → Telemetry → Stake → Prop
  chains : DecoratorChain → DecoratorChain → Prop
  heads : List Attribute → Prop
  headed : ∀ (component : Scalar) (rest : List Attribute), heads (("component", component) :: rest)
  lasts : ∀ {w t t' stake}, t.Grows t' → covers w t stake → covers w t' stake
  installed : ∀ {w t u}, rel w t u → t.installed = u.installed
  bridged : ∀ {w t u}, rel w t u → t.bridged = u.bridged
  held : ∀ {w t u}, rel w t u → t.held = u.held
  entered : ∀ {w t u}, rel w t u → t.entered = u.entered ∧ ∀ tracer ∈ t.entered, covers w t (.tracer tracer)
  finished : ∀ {w t u span}, rel w t u → covers w t (.span span) → t.isFinished span = u.isFinished span
  attach : ∀ {w t u} (context : Context), rel w t u → rel w (t.attach context) (u.attach context)
  detach : ∀ {w t u}, rel w t u → rel w t.detach u.detach
  record : ∀ {w t u} (entry : Entry), rel w t u →
    (∀ decorator observed hook sight?, entry ≠ .called decorator observed hook sight?) →
    rel w (t.record entry) (u.record entry)
  act : ∀ {w t u span} (actions : List SpanAction), rel w t u →
    covers w t (.span span) ∨ covers w t (.tracer span) → rel w (t.act span actions) (u.act span actions)
  mark : ∀ {w t u span}, rel w t u → covers w t (.span span) →
    rel w (t.alter span fun record => { record with finished := true })
      (u.alter span fun record => { record with finished := true })
  ends : ∀ {w t u span}, rel w t u → covers w t (.span span) ∨ covers w t (.tracer span) →
    rel w (t.endSpan span) (u.endSpan span)
  start : ∀ {w t u} (name : String) (kind : SpanKind) (parent : Context) (attributes : List Attribute)
    (links : List SpanContext), rel w t u →
    t.nextContext parent = u.nextContext parent ∧
      rel w (t.startSpan name kind parent attributes links).2 (u.startSpan name kind parent attributes links).2 ∧
      covers w (t.startSpan name kind parent attributes links).2 (.span (t.nextContext parent))
  startLocal : ∀ {w t u} (name : String) (kind : SpanKind) (parent : Context) (attributes : List Attribute)
    (links : List SpanContext), rel w t u → t.bridged = true → covers w t .localSpans → heads attributes →
    covers w (t.startSpan name kind parent attributes links).2 (.tracer (t.nextContext parent))
  enter : ∀ {w t u tracer}, rel w t u → covers w t (.tracer tracer) →
    rel w { t.attach (.of tracer) with entered := tracer :: t.entered }
      { u.attach (.of tracer) with entered := tracer :: u.entered }
  exit : ∀ {w t u}, rel w t u →
    rel w { t.detach with entered := t.entered.tail } { u.detach with entered := u.entered.tail }
  report : ∀ {w t u} (a b : HandlerCoordinator) (handler : Handler), rel w t u → covers w t .missing →
    a.name = b.name → rel w (a.reportMissing handler t) (b.reportMissing handler u)
  invoke : ∀ {w t u span c d} (hook : Hook), rel w t u → covers w t (.span span) → chains c d →
    t.current = .of span → u.current = .of span → rel w (c.invoke hook (some span) t) (d.invoke hook (some span) u)

namespace Pairing

variable {P : Pairing}

structure Moves (P : Pairing) (w : P.World) (t u t' u' : Telemetry) : Prop where
  rel : P.rel w t' u'
  keeps : ∀ stake, P.covers w t stake → P.covers w t' stake
  left : t'.ambient = t.ambient
  right : u'.ambient = u.ambient

section Steps

variable {w : P.World} {t u t' u' : Telemetry}

theorem moves_self (rel : P.rel w t u) : P.Moves w t u t u := ⟨rel, fun _ covered => covered, rfl, rfl⟩

theorem moves_trans {between between' : Telemetry} (early : P.Moves w t u between between')
    (late : P.Moves w between between' t' u') : P.Moves w t u t' u' :=
  ⟨late.rel, fun stake covered => late.keeps stake (early.keeps stake covered), late.left.trans early.left,
    late.right.trans early.right⟩

theorem moves_current (moves : P.Moves w t u t' u') (here : t.current = u.current) : t'.current = u'.current := by
  rw [Telemetry.current, Telemetry.current, moves.left, moves.right]
  exact here

theorem moves_growing (rel : P.rel w t' u') (grows : t.Grows t') (left : t'.ambient = t.ambient)
    (right : u'.ambient = u.ambient) : P.Moves w t u t' u' := ⟨rel, fun _ => P.lasts grows, left, right⟩

theorem moves_within {α β : Type} (context : Context) (step : Telemetry → α × Telemetry) (other : Telemetry → β × Telemetry)
    (inner : P.Moves w (t.attach context) (u.attach context) (step (t.attach context)).2 (other (u.attach context)).2) :
    P.Moves w t u (t.within context step).2 (u.within context other).2 := by
  refine ⟨P.detach inner.rel, fun stake covered => ?_, ?_, ?_⟩
  · have attached : P.covers w (t.attach context) stake := P.lasts (Telemetry.grows_same t (t.attach context) rfl) covered
    exact P.lasts (Telemetry.grows_same (step (t.attach context)).2 _ rfl) (inner.keeps stake attached)
  · change (step (t.attach context)).2.ambient.tail = t.ambient
    rw [inner.left]
    rfl
  · change (other (u.attach context)).2.ambient.tail = u.ambient
    rw [inner.right]
    rfl

theorem moves_record (entry : Entry) (rel : P.rel w t u)
    (plain : ∀ decorator observed hook sight?, entry ≠ .called decorator observed hook sight?) :
    P.Moves w t u (t.record entry) (u.record entry) :=
  moves_growing (P.record entry rel plain) (Telemetry.grows_same t (t.record entry) rfl) rfl rfl

theorem moves_act {span : SpanContext} (actions : List SpanAction) (rel : P.rel w t u)
    (covered : P.covers w t (.span span) ∨ P.covers w t (.tracer span)) :
    P.Moves w t u (t.act span actions) (u.act span actions) :=
  moves_growing (P.act actions rel covered) (t.grows_act span actions) (t.ambient_act span actions) (u.ambient_act span actions)

theorem moves_end {span : SpanContext} (rel : P.rel w t u)
    (covered : P.covers w t (.span span) ∨ P.covers w t (.tracer span)) :
    P.Moves w t u (t.endSpan span) (u.endSpan span) :=
  moves_growing (P.ends rel covered) (t.grows_end span) (t.ambient_end span) (u.ambient_end span)

theorem moves_mark {span : SpanContext} (rel : P.rel w t u) (covered : P.covers w t (.span span)) :
    P.Moves w t u (t.alter span fun record => { record with finished := true })
      (u.alter span fun record => { record with finished := true }) :=
  moves_growing (P.mark rel covered) (t.grows_alter span _ fun record => record.extends_flags _ _)
    (t.ambient_alter span _) (u.ambient_alter span _)

theorem moves_start (name : String) (kind : SpanKind) (parent : Context) (attributes : List Attribute)
    (links : List SpanContext) (rel : P.rel w t u) :
    t.nextContext parent = u.nextContext parent ∧
      P.Moves w t u (t.startSpan name kind parent attributes links).2 (u.startSpan name kind parent attributes links).2 ∧
      P.covers w (t.startSpan name kind parent attributes links).2 (.span (t.nextContext parent)) := by
  obtain ⟨same, rel', covered⟩ := P.start name kind parent attributes links rel
  exact ⟨same, moves_growing rel' (t.grows_start name kind parent attributes links) rfl rfl, covered⟩

theorem moves_log (level : LogLevel) (message : String) (fields : List (String × String)) (rel : P.rel w t u) :
    P.Moves w t u (t.log level message fields) (u.log level message fields) := by
  have logged := moves_record (.logged ⟨level, message, fields⟩) rel (by simp)
  obtain ⟨same, covered⟩ := P.entered rel
  cases inside : t.entered with
  | nil =>
      rw [t.log_outside _ _ _ inside, u.log_outside _ _ _ (same.symm.trans inside)]
      exact logged
  | cons tracer rest =>
      have reached := logged.keeps _ (covered tracer (by rw [inside]; exact List.mem_cons_self))
      rw [t.log_inside _ _ _ tracer rest inside, u.log_inside _ _ _ tracer rest (same.symm.trans inside)]
      split
      · exact moves_trans logged (moves_act _ logged.rel (.inr reached))
      · exact moves_trans logged (moves_act _ logged.rel (.inr reached))

theorem moves_finish {span : SpanContext} (rel : P.rel w t u) (covered : P.covers w t (.span span)) :
    (t.finish span).1 = (u.finish span).1 ∧ P.Moves w t u (t.finish span).2 (u.finish span).2 := by
  have same := P.finished rel covered
  cases stopped : u.isFinished span with
  | true =>
      have stopped' : t.isFinished span = true := same.trans stopped
      have noted := moves_record (.finishing span false) rel (by simp)
      have logged := moves_trans noted (moves_log .trace "span already finished" [("span_id", span.spanHex)] noted.rel)
      simp only [Telemetry.finish, stopped, stopped', if_true]
      exact ⟨trivial, logged⟩
  | false =>
      have running : t.isFinished span = false := same.trans stopped
      have noted := moves_record (.finishing span true) rel (by simp)
      have marked := moves_trans noted (moves_mark noted.rel (noted.keeps _ covered))
      have ended := moves_trans marked (moves_end marked.rel (.inl (marked.keeps _ covered)))
      simp only [Telemetry.finish, stopped, running, Bool.false_eq_true, if_false]
      exact ⟨trivial, ended⟩

theorem moves_release {span : SpanContext} (rel : P.rel w t u) (covered : P.covers w t (.span span)) :
    P.Moves w t u (t.release span) (u.release span) := by
  unfold Telemetry.release
  rw [P.held rel]
  split
  · exact moves_self rel
  · exact moves_end rel (.inl covered)

theorem moves_releases (spans : List SpanContext) (rel : P.rel w t u) (covered : ∀ span ∈ spans, P.covers w t (.span span)) :
    P.Moves w t u (spans.foldl Telemetry.release t) (spans.foldl Telemetry.release u) := by
  induction spans generalizing t u with
  | nil => exact moves_self rel
  | cons span rest ih =>
      have first := moves_release rel (covered span List.mem_cons_self)
      exact moves_trans first (ih first.rel fun other member =>
        first.keeps _ (covered other (List.mem_cons_of_mem _ member)))

theorem moves_report (a b : HandlerCoordinator) (handler : Handler) (rel : P.rel w t u) (covered : P.covers w t .missing)
    (same : a.name = b.name) : P.Moves w t u (a.reportMissing handler t) (b.reportMissing handler u) :=
  moves_growing (P.report a b handler rel covered same) (a.grows_report_missing handler t) (a.ambient_report handler t)
    (b.ambient_report handler u)

theorem moves_invoke {span : SpanContext} {c d : DecoratorChain} (hook : Hook) (chains : P.chains c d) (rel : P.rel w t u)
    (covered : P.covers w t (.span span)) (here : t.current = .of span) (there : u.current = .of span) :
    P.Moves w t u (c.invoke hook (some span) t) (d.invoke hook (some span) u) :=
  moves_growing (P.invoke hook rel covered chains here there) (c.grows_invoke hook (some span) t) (c.ambient_invoke _ _ t)
    (d.ambient_invoke _ _ u)

theorem moves_attached (context : Context) (rel : P.rel w t u) {stake : Stake} (covered : P.covers w t stake) :
    P.rel w (t.attach context) (u.attach context) ∧ P.covers w (t.attach context) stake :=
  ⟨P.attach context rel, P.lasts (Telemetry.grows_same t (t.attach context) rfl) covered⟩

theorem moves_round {span : SpanContext} {c d : DecoratorChain} (hook : Hook) (chains : P.chains c d) (rel : P.rel w t u)
    (covered : P.covers w t (.span span)) :
    P.Moves w t u (t.within (.of span) fun t => ((), c.invoke hook (some span) t)).2
      (u.within (.of span) fun u => ((), d.invoke hook (some span) u)).2 := by
  obtain ⟨attached, reached⟩ := moves_attached (.of span) rel covered
  exact moves_within _ _ _ (moves_invoke hook chains attached reached rfl rfl)

end Steps

end Pairing

end RequestSpans
