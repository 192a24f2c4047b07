import RequestSpans.Proofs.Ledger

set_option autoImplicit false

namespace RequestSpans

structure Span.Extends (before after : Span) : Prop where
  context : after.context = before.context
  kind : after.kind = before.kind
  parent : after.parent? = before.parent?
  links : after.links = before.links
  attributes : before.attributes <+: after.attributes

namespace Span

theorem extends_self (span : Span) : span.Extends span := ⟨rfl, rfl, rfl, rfl, List.prefix_rfl⟩

theorem extends_trans {first second third : Span} (early : first.Extends second) (late : second.Extends third) :
    first.Extends third :=
  ⟨late.context.trans early.context, late.kind.trans early.kind, late.parent.trans early.parent,
    late.links.trans early.links, early.attributes.trans late.attributes⟩

theorem extends_flags (span : Span) (finished ended : Bool) : span.Extends { span with finished, ended } :=
  ⟨rfl, rfl, rfl, rfl, List.prefix_rfl⟩

theorem extends_recording {change : Span → Span} (extend : ∀ span : Span, span.Extends (change span)) (span : Span) :
    span.Extends (if span.isRecording then change span else span) := by
  split
  · exact extend span
  · exact extends_self span

theorem extends_attribute (span : Span) (tag : Attribute) : span.Extends (span.addAttribute tag) := by
  unfold addAttribute
  split
  · exact ⟨rfl, rfl, rfl, rfl, List.prefix_append _ _⟩
  · exact ⟨rfl, rfl, rfl, rfl, List.prefix_rfl⟩

theorem extends_event (span : Span) (event : SpanEvent) : span.Extends (span.addEvent event) := by
  unfold addEvent
  split <;> exact ⟨rfl, rfl, rfl, rfl, List.prefix_rfl⟩

theorem extends_status (span : Span) (status : SpanStatus) : span.Extends (span.setStatus status) := by
  unfold setStatus
  split <;> exact ⟨rfl, rfl, rfl, rfl, List.prefix_rfl⟩

theorem extends_action (span : Span) (action : SpanAction) : span.Extends (action.apply span) := by
  cases action with
  | tag pair => exact extends_attribute span pair
  | tags pairs =>
      change span.Extends (pairs.foldl addAttribute span)
      induction pairs generalizing span with
      | nil => exact extends_self span
      | cons pair rest ih => exact extends_trans (extends_attribute span pair) (ih _)
  | event entry => exact extends_event span entry
  | status level => exact extends_status span level
  | rename name => exact ⟨rfl, rfl, rfl, rfl, List.prefix_rfl⟩
  | recordError fault =>
      exact extends_trans (extends_attribute span _)
        (extends_trans (extends_status _ _) (extends_event _ _))

end Span

def Telemetry.Grows (before after : Telemetry) : Prop :=
  ∀ span record, before.span? span = some record → ∃ later, after.span? span = some later ∧ record.Extends later

namespace Telemetry

theorem grows_self (t : Telemetry) : t.Grows t := fun _ record known => ⟨record, known, record.extends_self⟩

theorem grows_trans {first second third : Telemetry} (early : first.Grows second) (late : second.Grows third) :
    first.Grows third := by
  intro span record known
  obtain ⟨between, found, grown⟩ := early span record known
  obtain ⟨later, found', grown'⟩ := late span between found
  exact ⟨later, found', Span.extends_trans grown grown'⟩

theorem grows_same (before after : Telemetry) (same : after.spans = before.spans) : before.Grows after := by
  intro span record known
  refine ⟨record, ?_, record.extends_self⟩
  rw [← known, span?, span?, same]

theorem grows_within {α : Type} (t : Telemetry) (context : Context) (step : Telemetry → α × Telemetry)
    (grows : ∀ t : Telemetry, t.Grows (step t).2) : t.Grows (t.within context step).2 := by
  have attached := grows_same t (t.attach context) rfl
  have detached := grows_same (step (t.attach context)).2 (t.within context step).2 rfl
  exact grows_trans attached (grows_trans (grows (t.attach context)) detached)

theorem grows_alter (t : Telemetry) (altered : SpanContext) (change : Span → Span)
    (extend : ∀ record : Span, record.Extends (change record)) : t.Grows (t.alter altered change) := by
  cases found : t.span? altered with
  | none =>
      rw [alter_unknown t altered change found]
      exact grows_self t
  | some changed =>
      obtain ⟨_, _, present⟩ := span_known t altered changed found
      have bound := (List.getElem?_eq_some_iff.mp present).1
      rw [alter_known t altered changed change found]
      intro span record known
      obtain ⟨own, nonzero, here⟩ := span_known t span record known
      by_cases same : span.span - 1 = altered.span - 1
      · have record_ : record = changed := by simpa [same, present] using here.symm
        refine ⟨change changed, ?_, record_ ▸ extend changed⟩
        simp [span?, own, nonzero, same, bound]
      · refine ⟨record, ?_, record.extends_self⟩
        have still : (t.spans.set (altered.span - 1) (change changed))[span.span - 1]? = some record := by
          rw [List.getElem?_set_ne (Ne.symm same), here]
        simpa [span?, own, nonzero] using still

theorem grows_update (t : Telemetry) (span : SpanContext) (change : Span → Span)
    (extend : ∀ record : Span, record.Extends (change record)) : t.Grows (t.update span change) :=
  grows_alter t span _ (Span.extends_recording extend)

theorem grows_act (t : Telemetry) (span : SpanContext) (actions : List SpanAction) : t.Grows (t.act span actions) := by
  unfold act
  induction actions generalizing t with
  | nil => exact grows_self t
  | cons action rest ih =>
      exact grows_trans (grows_update t span _ fun record => record.extends_action action) (ih _)

theorem grows_log (t : Telemetry) (level : LogLevel) (message : String) (fields : List (String × String)) :
    t.Grows (t.log level message fields) := by
  have recorded := grows_same t (t.record (.logged ⟨level, message, fields⟩)) rfl
  unfold log
  dsimp only
  split
  · exact recorded
  · split
    · exact grows_trans recorded (grows_trans (grows_update _ _ _ fun record => record.extends_event _)
        (grows_update _ _ _ fun record => record.extends_status _))
    · exact grows_trans recorded (grows_update _ _ _ fun record => record.extends_event _)

theorem grows_start (t : Telemetry) (name : String) (kind : SpanKind) (parent : Context) (attributes : List Attribute)
    (links : List SpanContext) : t.Grows (t.startSpan name kind parent attributes links).2 := by
  intro span record known
  obtain ⟨own, nonzero, here⟩ := span_known t span record known
  have bound := (List.getElem?_eq_some_iff.mp here).1
  refine ⟨record, ?_, record.extends_self⟩
  simpa [startSpan, span?, Telemetry.record, own, nonzero, List.getElem?_append_left bound] using here

theorem span_start (t : Telemetry) (name : String) (kind : SpanKind) (parent : Context) (attributes : List Attribute)
    (links : List SpanContext) :
    (t.startSpan name kind parent attributes links).2.span? (t.nextContext parent) =
      some ⟨name, kind, t.nextContext parent, parent.span?, attributes, 0, [], 0, links.take Span.limit, .unset, false, false⟩ := by
  have own : (t.nextContext parent).remote = false ∧ (t.nextContext parent).span = t.spans.length + 1 := ⟨rfl, rfl⟩
  simp [startSpan, span?, Telemetry.record, own]

def Places (t : Telemetry) (span : SpanContext) (kind : SpanKind) (parent? : Option SpanContext) : Prop :=
  ∃ record, t.span? span = some record ∧ record.context = span ∧ record.kind = kind ∧ record.parent? = parent?

theorem start_places (t later : Telemetry) (name : String) (kind : SpanKind) (parent : Context) (attributes : List Attribute)
    (links : List SpanContext) (grows : (t.startSpan name kind parent attributes links).2.Grows later) :
    later.Places (t.nextContext parent) kind parent.span? := by
  obtain ⟨record, known, extend⟩ := grows _ _ (t.span_start name kind parent attributes links)
  exact ⟨record, known, extend.context, extend.kind, extend.parent⟩

theorem grows_end (t : Telemetry) (span : SpanContext) : t.Grows (t.endSpan span) := by
  cases known : t.span? span with
  | none =>
      simp only [endSpan, known]
      exact grows_self t
  | some found =>
      simp only [endSpan, known]
      split
      · exact grows_self t
      · have ended := grows_alter t span (fun record => { record with ended := true })
          fun record => record.extends_flags _ _
        rw [alter_known t span found _ known] at ended
        exact grows_trans ended (grows_same _ _ rfl)

theorem grows_finish (t : Telemetry) (span : SpanContext) : t.Grows (t.finish span).2 := by
  unfold finish
  split
  · exact grows_trans (grows_same t (t.record (.finishing span false)) rfl) (grows_log _ _ _ _)
  · have marked := grows_alter (t.record (.finishing span true)) span (fun record => { record with finished := true })
      fun record => record.extends_flags _ _
    exact grows_trans (grows_same t (t.record (.finishing span true)) rfl)
      (grows_trans marked (grows_end _ span))

end Telemetry

namespace DecoratorChain

theorem grows_run_one (hook : Hook) (span? : Option SpanContext) (t : Telemetry) (decorator : Decorator) :
    t.Grows (runOne hook span? t decorator) := by
  have called : ∀ entry, t.Grows (t.record entry) := fun entry => t.grows_same (t.record entry) rfl
  cases span? with
  | none =>
      cases panic : (decorator.react hook).panic? with
      | none =>
          simp only [runOne, panic]
          exact called _
      | some payload =>
          simp only [runOne, panic]
          exact Telemetry.grows_trans (called _) (Telemetry.grows_log _ _ _ _)
  | some span =>
      have acted : ∀ entry, t.Grows ((t.record entry).act span (decorator.react hook).actions) :=
        fun entry => Telemetry.grows_trans (called entry) (Telemetry.grows_act _ span _)
      cases panic : (decorator.react hook).panic? with
      | none =>
          simp only [runOne, panic]
          exact acted _
      | some payload =>
          simp only [runOne, panic]
          exact Telemetry.grows_trans (acted _) (Telemetry.grows_log _ _ _ _)

theorem grows_invoke (chain : DecoratorChain) (hook : Hook) (span? : Option SpanContext) (t : Telemetry) :
    t.Grows (chain.invoke hook span? t) := by
  have calls : ∀ (decorators : List Decorator) (before : Telemetry),
      before.Grows (decorators.foldl (runOne hook span?) before) := by
    intro decorators
    induction decorators with
    | nil => exact Telemetry.grows_self
    | cons decorator rest ih =>
        intro before
        exact Telemetry.grows_trans (grows_run_one hook span? before decorator) (ih _)
  exact Telemetry.grows_trans (Telemetry.grows_same t (t.record (.round hook span?)) rfl) (calls _ _)

theorem grows_round (chain : DecoratorChain) (hook : Hook) (span : SpanContext) (t : Telemetry) :
    t.Grows (t.within (.of span) fun t => ((), chain.invoke hook (some span) t)).2 :=
  t.grows_within _ _ fun t => chain.grows_invoke hook (some span) t

end DecoratorChain

end RequestSpans
