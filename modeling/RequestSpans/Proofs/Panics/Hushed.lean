import RequestSpans.Proofs.Comparison.Basic
import RequestSpans.Proofs.Panics.Overheard

set_option autoImplicit false

namespace RequestSpans

def Decorator.hushed (decorator : Decorator) : Decorator :=
  { decorator with react := fun hook => .act (decorator.react hook).actions }

def DecoratorChain.hushed (chain : DecoratorChain) : DecoratorChain := ⟨chain.decorators.map Decorator.hushed⟩

def Decorator.failures (decorator : Decorator) (hook : Hook) : List Entry :=
  (decorator.react hook).panic?.toList.map fun payload => .logged ⟨.error, "span decorator failed",
    [("decorator", decorator.name), ("hook", hook.name), ("cause", payload.message)]⟩

-- What one step of the tracing leaves in the journals of the two runs.
inductive Echo (crew : List Decorator) (bridged : Bool) : List Entry → List Entry → Prop
  | called (decorator : Decorator) (hook : Hook) (sight? : Option Sight) (member : decorator ∈ crew) :
      Echo crew bridged (.called decorator.name decorator.observed hook sight? :: decorator.failures hook)
        [.called decorator.name decorator.observed hook sight?]
  | ended (loud quiet : Span) (muted : loud.Muted bridged quiet) : Echo crew bridged [.ended loud] [.ended quiet]
  | other (entry : Entry) (plain : ∀ decorator observed hook sight?, entry ≠ .called decorator observed hook sight?) :
      Echo crew bridged [entry] [entry]

inductive Mutes (crew : List Decorator) (bridged : Bool) : List Entry → List Entry → Prop
  | nil : Mutes crew bridged [] []
  | snoc (loud quiet last last' : List Entry) (before : Mutes crew bridged loud quiet) (one : Echo crew bridged last last') :
      Mutes crew bridged (loud ++ last) (quiet ++ last')

namespace Telemetry

def IsLocal (t : Telemetry) (tracer : SpanContext) : Prop := ∃ record, t.span? tracer = some record ∧ record.IsLocal

-- Two telemetries that differ in their journals, and in what failures left on
-- local spans.
structure Aligned (bridged : Bool) (t u : Telemetry) : Prop where
  bare : t.bare = u.bare
  linked : t.bridged = bridged
  records : Records (fun _ => Span.Muted bridged) t u
  locals : ∀ tracer ∈ t.entered, bridged = true ∧ t.IsLocal tracer

theorem local_grows {t t' : Telemetry} {tracer : SpanContext} (isLocal : t.IsLocal tracer) (grows : t.Grows t') :
    t'.IsLocal tracer := by
  obtain ⟨record, known, headed⟩ := isLocal
  obtain ⟨later, found, extends_⟩ := grows tracer record known
  exact ⟨later, found, Span.local_extends headed extends_⟩

section Steps

variable {bridged : Bool} {t u t' u' : Telemetry}

theorem aligned_finished (same : Aligned bridged t u) (span : SpanContext) : t.isFinished span = u.isFinished span :=
  any_same (fun _ _ => Span.muted_finished) (records_span same.records span)

theorem aligned_recording (same : Aligned bridged t u) (span : SpanContext) : t.isRecording span = u.isRecording span :=
  any_same (fun _ _ => Span.muted_recording) (records_span same.records span)

theorem aligned_reads {α : Type} (same : Aligned bridged t u) (read : Telemetry → α) (bared : ∀ t, read t.bare = read t) :
    read t = read u :=
  (bared t).symm.trans ((congrArg read same.bare).trans (bared u))

theorem aligned_same (same : Aligned bridged t u) (bare : t'.bare = u'.bare) (linked : t'.bridged = t.bridged)
    (spans : t'.spans = t.spans) (spans' : u'.spans = u.spans) (entered : t'.entered ⊆ t.entered) : Aligned bridged t' u' := by
  refine ⟨bare, linked.trans same.linked, records_same same.records spans spans', fun tracer member => ?_⟩
  obtain ⟨allowed, isLocal⟩ := same.locals tracer (entered member)
  exact ⟨allowed, local_grows isLocal (grows_same t t' spans)⟩

theorem aligned_record (same : Aligned bridged t u) (entry entry' : Entry) :
    Aligned bridged (t.record entry) (u.record entry') :=
  aligned_same same same.bare rfl rfl rfl fun _ member => member

theorem aligned_alter (same : Aligned bridged t u) (span : SpanContext) (change other : Span → Span)
    (extends_ : ∀ record : Span, record.Extends (change record))
    (keeps : ∀ loud quiet, t.span? span = some loud → Span.Muted bridged loud quiet →
      Span.Muted bridged (change loud) (other quiet)) : Aligned bridged (t.alter span change) (u.alter span other) := by
  have bare := t.bare_alter span change
  refine ⟨?_, ?_, records_alter same.records span change other keeps, fun tracer member => ?_⟩
  · rw [bare, bare_alter, same.bare]
  · exact (congrArg Telemetry.bridged bare).trans same.linked
  · have entered := congrArg Telemetry.entered bare
    change (t.alter span change).entered = t.entered at entered
    obtain ⟨allowed, isLocal⟩ := same.locals tracer (by rw [← entered]; exact member)
    exact ⟨allowed, local_grows isLocal (grows_alter t span change extends_)⟩

theorem aligned_update (same : Aligned bridged t u) (span : SpanContext) (change other : Span → Span)
    (extends_ : ∀ record : Span, record.Extends (change record))
    (keeps : ∀ loud quiet, Span.Muted bridged loud quiet → Span.Muted bridged (change loud) (other quiet)) :
    Aligned bridged (t.update span change) (u.update span other) := by
  refine aligned_alter same span _ _ (Span.extends_recording extends_) fun loud quiet _ muted => ?_
  rw [Span.muted_recording muted]
  split
  · exact keeps loud quiet muted
  · exact muted

theorem aligned_act (same : Aligned bridged t u) (span : SpanContext) (actions : List SpanAction) :
    Aligned bridged (t.act span actions) (u.act span actions) := by
  induction actions generalizing t u with
  | nil => exact same
  | cons action rest ih =>
      exact ih (aligned_update same span _ _ (fun record => Span.extends_action record action)
        fun loud quiet => Span.muted_action action)

theorem aligned_noted (same : Aligned bridged t u) (tracer : SpanContext) (isLocal : t.IsLocal tracer)
    (change : Span → Span) (extends_ : ∀ record : Span, record.Extends (change record))
    (keeps : ∀ loud quiet, loud.IsLocal → Span.Muted bridged loud quiet → Span.Muted bridged (change loud) quiet) :
    Aligned bridged (t.update tracer change) u := by
  rw [← alter_self u tracer]
  refine aligned_alter same tracer _ _ (Span.extends_recording extends_) fun loud quiet known muted => ?_
  obtain ⟨record, found, headed⟩ := isLocal
  obtain rfl := Option.some.inj (found.symm.trans known)
  split
  · exact keeps _ quiet headed muted
  · exact muted

theorem aligned_failure (same : Aligned bridged t u) (fields : List (String × String)) :
    Aligned bridged (t.log .error "span decorator failed" fields) u := by
  have noted : Aligned bridged (t.record (.logged ⟨.error, "span decorator failed", fields⟩)) u :=
    aligned_same same same.bare rfl rfl rfl fun _ member => member
  cases inside : t.entered with
  | nil =>
      rw [t.log_outside _ _ _ inside]
      exact noted
  | cons tracer rest =>
      obtain ⟨allowed, isLocal⟩ := noted.locals tracer (by
        change tracer ∈ t.entered
        rw [inside]
        exact List.mem_cons_self)
      rw [t.log_inside _ _ _ tracer rest inside, if_pos rfl]
      have event := aligned_noted noted tracer isLocal _ (fun record => Span.extends_event record _)
        fun loud quiet => Span.muted_failure_event (logEvent .error "span decorator failed" fields) rfl allowed
      exact aligned_noted event tracer (local_grows isLocal (grows_update _ _ _ fun record => Span.extends_event record _)) _
        (fun record => Span.extends_status record _) fun loud quiet => Span.muted_failure_status allowed

theorem aligned_log (same : Aligned bridged t u) (level : LogLevel) (message : String) (fields : List (String × String)) :
    Aligned bridged (t.log level message fields) (u.log level message fields) := by
  have noted := aligned_record same (.logged ⟨level, message, fields⟩) (.logged ⟨level, message, fields⟩)
  have entered := aligned_reads same Telemetry.entered fun _ => rfl
  cases inside : t.entered with
  | nil =>
      rw [t.log_outside _ _ _ inside, u.log_outside _ _ _ (entered.symm.trans inside)]
      exact noted
  | cons tracer rest =>
      rw [t.log_inside _ _ _ tracer rest inside, u.log_inside _ _ _ tracer rest (entered.symm.trans inside)]
      split <;> exact aligned_act noted tracer _

theorem aligned_next (same : Aligned bridged t u) (parent : Context) : t.nextContext parent = u.nextContext parent := by
  rw [nextContext, nextContext, nextTrace, nextTrace, records_length same.records,
    aligned_reads same Telemetry.traces fun _ => rfl, aligned_reads same Telemetry.sampler fun _ => rfl]

theorem aligned_start (same : Aligned bridged t u) (name : String) (kind : SpanKind) (parent : Context)
    (attributes : List Attribute) (links : List SpanContext) :
    Aligned bridged (t.startSpan name kind parent attributes links).2 (u.startSpan name kind parent attributes links).2 := by
  refine ⟨?_, same.linked, ?_, fun tracer member => ?_⟩
  · exact congrArg (fun t : Telemetry => { t with traces := if parent.span?.isSome then t.traces else t.traces + 1 }) same.bare
  · exact records_start same.records name kind parent attributes links (aligned_next same parent) fun _ => .inl rfl
  · obtain ⟨allowed, isLocal⟩ := same.locals tracer member
    exact ⟨allowed, local_grows isLocal (grows_start t name kind parent attributes links)⟩

end Steps

end Telemetry

structure Tape where
  bridged : Bool
  loud : List Entry
  quiet : List Entry

structure Tape.Hears (tape : Tape) (crew : List Decorator) (t u : Telemetry) : Prop where
  aligned : Telemetry.Aligned tape.bridged t u
  heard : ∃ loud quiet, t.journal = tape.loud ++ loud ∧ u.journal = tape.quiet ++ quiet ∧ Mutes crew tape.bridged loud quiet

namespace Tape

variable {tape : Tape} {crew : List Decorator} {t u t' u' : Telemetry}

theorem hears_same (hears : tape.Hears crew t u) (aligned : Telemetry.Aligned tape.bridged t' u')
    (left : t'.journal = t.journal) (right : u'.journal = u.journal) : tape.Hears crew t' u' := by
  obtain ⟨loud, quiet, journal, journal', mutes⟩ := hears.heard
  exact ⟨aligned, loud, quiet, left.trans journal, right.trans journal', mutes⟩

theorem hears_more (hears : tape.Hears crew t u) (aligned : Telemetry.Aligned tape.bridged t' u') (last last' : List Entry)
    (echo : Echo crew tape.bridged last last') (left : t'.journal = t.journal ++ last) (right : u'.journal = u.journal ++ last') :
    tape.Hears crew t' u' := by
  obtain ⟨loud, quiet, journal, journal', mutes⟩ := hears.heard
  exact ⟨aligned, loud ++ last, quiet ++ last', by rw [left, journal, List.append_assoc],
    by rw [right, journal', List.append_assoc], .snoc _ _ _ _ mutes echo⟩

theorem hears_record (hears : tape.Hears crew t u) (entry : Entry)
    (plain : ∀ decorator observed hook sight?, entry ≠ .called decorator observed hook sight?) :
    tape.Hears crew (t.record entry) (u.record entry) :=
  hears_more hears (Telemetry.aligned_record hears.aligned entry entry) _ _ (.other entry plain) rfl rfl

theorem hears_end (hears : tape.Hears crew t u) (span : SpanContext) : tape.Hears crew (t.endSpan span) (u.endSpan span) := by
  have aligned := hears.aligned
  cases Telemetry.records_end aligned.records span fun _ _ muted _ => Span.muted_ended muted with
  | stays left right =>
      rw [left, right]
      exact hears
  | ends loud quiet known muted left right =>
      have altered := Telemetry.aligned_alter aligned span Span.stopped Span.stopped
        (fun record => record.extends_flags _ _) fun _ _ _ => Span.muted_stopped
      rw [left, right]
      refine hears_more hears (Telemetry.aligned_record altered _ _) _ _ (.ended _ _ (Span.muted_stopped muted)) ?_ ?_
      · rw [Telemetry.record, Telemetry.journal_alter]
      · rw [Telemetry.record, Telemetry.journal_alter]

theorem hears_log (hears : tape.Hears crew t u) (level : LogLevel) (message : String) (fields : List (String × String)) :
    tape.Hears crew (t.log level message fields) (u.log level message fields) :=
  hears_more hears (Telemetry.aligned_log hears.aligned level message fields) _ _
    (.other (.logged ⟨level, message, fields⟩) (by simp)) (t.journal_log level message fields) (u.journal_log level message fields)

theorem hears_start (hears : tape.Hears crew t u) (name : String) (kind : SpanKind) (parent : Context)
    (attributes : List Attribute) (links : List SpanContext) :
    tape.Hears crew (t.startSpan name kind parent attributes links).2 (u.startSpan name kind parent attributes links).2 := by
  have started := Telemetry.aligned_start hears.aligned name kind parent attributes links
  refine hears_more hears started _ _ (.other _ ?_) rfl ?_
  · simp
  · rw [Telemetry.aligned_next hears.aligned parent]
    rfl

theorem hears_call (hears : tape.Hears crew t u) (hook : Hook) (span : SpanContext) (decorator : Decorator)
    (member : decorator ∈ crew) : tape.Hears crew (DecoratorChain.runOne hook (some span) t decorator)
      (DecoratorChain.runOne hook (some span) u decorator.hushed) := by
  have sight : (⟨span, u.current, u.isRecording span⟩ : Sight) = ⟨span, t.current, t.isRecording span⟩ := by
    rw [Telemetry.aligned_reads hears.aligned Telemetry.current fun _ => rfl, Telemetry.aligned_recording hears.aligned]
  have called (entry : Entry) : Telemetry.Aligned tape.bridged ((t.record entry).act span (decorator.react hook).actions)
      ((u.record entry).act span (decorator.react hook).actions) :=
    Telemetry.aligned_act (Telemetry.aligned_record hears.aligned entry entry) span _
  have echo : Echo crew tape.bridged _ _ := .called decorator hook (some ⟨span, t.current, t.isRecording span⟩) member
  have quiet : DecoratorChain.runOne hook (some span) u decorator.hushed =
      (u.record (.called decorator.name decorator.observed hook (some ⟨span, t.current, t.isRecording span⟩))).act span
        (decorator.react hook).actions := by
    rw [← sight]
    rfl
  rw [quiet]
  cases panic : (decorator.react hook).panic? with
  | none =>
      simp only [DecoratorChain.runOne, panic, Option.map_some]
      refine hears_more hears (called _) _ _ echo ?_ (Telemetry.journal_act _ _ _)
      rw [Telemetry.journal_act, Decorator.failures, panic]
      rfl
  | some payload =>
      simp only [DecoratorChain.runOne, panic, Option.map_some]
      refine hears_more hears (Telemetry.aligned_failure (called _) _) _ _ echo ?_ (Telemetry.journal_act _ _ _)
      rw [Telemetry.journal_log, Telemetry.journal_act, Decorator.failures, panic, Telemetry.record, List.append_assoc]
      rfl

theorem hears_invoke (hears : tape.Hears crew t u) (hook : Hook) (span : SpanContext) (chain : DecoratorChain)
    (members : chain.decorators ⊆ crew) :
    tape.Hears crew (chain.invoke hook (some span) t) (chain.hushed.invoke hook (some span) u) := by
  have calls : ∀ (decorators : List Decorator) (t u : Telemetry), decorators ⊆ crew → tape.Hears crew t u →
      tape.Hears crew (decorators.foldl (DecoratorChain.runOne hook (some span)) t)
        ((decorators.map Decorator.hushed).foldl (DecoratorChain.runOne hook (some span)) u) := by
    intro decorators
    induction decorators with
    | nil => exact fun _ _ _ hears => hears
    | cons decorator rest ih =>
        intro t u members hears
        exact ih _ _ (fun _ member => members (List.mem_cons_of_mem _ member))
          (hears_call hears hook span decorator (members List.mem_cons_self))
  exact calls _ _ _ members (hears_record hears (.round hook (some span)) (by simp))

theorem hears_report (hears : tape.Hears crew t u) (a b : HandlerCoordinator) (handler : Handler) (same : a.name = b.name) :
    tape.Hears crew (a.reportMissing handler t) (b.reportMissing handler u) := by
  have reported : t.reported = u.reported := Telemetry.aligned_reads hears.aligned Telemetry.reported fun _ => rfl
  unfold HandlerCoordinator.reportMissing
  rw [same, reported]
  split
  · exact hears
  · have marked : Telemetry.Aligned tape.bridged { t with reported := b.name :: u.reported }
        { u with reported := b.name :: u.reported } :=
      Telemetry.aligned_same hears.aligned
        (congrArg (fun bare : Telemetry => { bare with reported := b.name :: u.reported }) hears.aligned.bare)
        rfl rfl rfl fun _ member => member
    exact hears_log (hears_same hears marked rfl rfl) .error _ _

end Tape

-- The two runs compare step by step. Local spans can be told by the attribute
-- that they start with.
def hushing (crew : List Decorator) : Pairing where
  World := Tape
  rel tape t u := tape.Hears crew t u
  covers tape t
    | .tracer tracer => tape.bridged = true ∧ t.IsLocal tracer
    | _ => True
  chains c d := d = c.hushed ∧ c.decorators ⊆ crew
  heads attributes := ∃ component rest, attributes = ("component", component) :: rest
  headed component rest := ⟨component, rest, rfl⟩
  lasts := by
    rintro _ _ _ (_ | _ | _ | _) grows covered
    case tracer => exact ⟨covered.1, Telemetry.local_grows covered.2 grows⟩
    all_goals trivial
  installed hears := Telemetry.aligned_reads hears.aligned Telemetry.installed fun _ => rfl
  bridged hears := Telemetry.aligned_reads hears.aligned Telemetry.bridged fun _ => rfl
  held hears := Telemetry.aligned_reads hears.aligned Telemetry.held fun _ => rfl
  entered hears := ⟨Telemetry.aligned_reads hears.aligned Telemetry.entered fun _ => rfl, hears.aligned.locals⟩
  finished hears _ := Telemetry.aligned_finished hears.aligned _
  attach context hears := Tape.hears_same hears (Telemetry.aligned_same hears.aligned
    (congrArg (fun bare : Telemetry => bare.attach context) hears.aligned.bare) rfl rfl rfl fun _ member => member) rfl rfl
  detach hears := Tape.hears_same hears (Telemetry.aligned_same hears.aligned
    (congrArg Telemetry.detach hears.aligned.bare) rfl rfl rfl fun _ member => member) rfl rfl
  record entry hears plain := Tape.hears_record hears entry plain
  act actions hears _ := Tape.hears_same hears (Telemetry.aligned_act hears.aligned _ actions)
    (Telemetry.journal_act _ _ _) (Telemetry.journal_act _ _ _)
  mark hears _ := Tape.hears_same hears (Telemetry.aligned_alter hears.aligned _ _ _
    (fun record => record.extends_flags _ _) fun _ _ _ => Span.muted_mark)
    (Telemetry.journal_alter _ _ _) (Telemetry.journal_alter _ _ _)
  ends hears _ := Tape.hears_end hears _
  start name kind parent attributes links hears :=
    ⟨Telemetry.aligned_next hears.aligned parent, Tape.hears_start hears name kind parent attributes links, trivial⟩
  startLocal name kind parent attributes links hears bridged _ heads :=
    ⟨hears.aligned.linked.symm.trans bridged, _, Telemetry.span_start _ name kind parent attributes links, heads⟩
  enter := by
    intro tape t u tracer hears covered
    have bare := hears.aligned.bare
    refine Tape.hears_same hears ⟨?_, hears.aligned.linked, hears.aligned.records, ?_⟩ rfl rfl
    · exact congrArg (fun bare : Telemetry => { bare.attach (.of tracer) with entered := tracer :: bare.entered }) bare
    · intro other member
      cases member with
      | head => exact covered
      | tail _ older => exact hears.aligned.locals other older
  exit hears := Tape.hears_same hears (Telemetry.aligned_same hears.aligned
    (congrArg (fun bare : Telemetry => { bare.detach with entered := bare.entered.tail }) hears.aligned.bare) rfl rfl rfl
    fun _ => List.mem_of_mem_tail) rfl rfl
  report a b handler hears _ same := Tape.hears_report hears a b handler same
  invoke := by
    rintro tape t u span c d hook hears _ ⟨rfl, members⟩ _ _
    exact Tape.hears_invoke hears hook span c members

end RequestSpans
