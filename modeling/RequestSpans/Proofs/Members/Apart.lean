import RequestSpans.Proofs.Comparison.Records
import RequestSpans.Proofs.Members.Pool

set_option autoImplicit false

namespace RequestSpans

-- What is settled while one of the members acts: the places of the records that
-- are not its own, the records and journals that it starts from, and whether it
-- keeps off local spans, on which a complaint would be noted.
structure Division where
  foreign : Nat → Prop
  before : List Span
  settings : Propagator × Bool × Sampler
  low : ∀ index, foreign index → index < before.length
  pool : List Entry
  alone : List Entry
  plain : Bool

namespace Telemetry

def common (t : Telemetry) : Telemetry := { t.bare with ambient := [], reported := [] }

def settings (t : Telemetry) : Propagator × Bool × Sampler := (t.installed, t.bridged, t.sampler)

end Telemetry

namespace Division

def Beside (d : Division) (index : Nat) (a b : Span) : Prop :=
  (d.foreign index → d.before[index]? = some a) ∧ (¬ d.foreign index → a = b)

def Owns (d : Division) (t : Telemetry) (span : SpanContext) : Prop :=
  (∃ record, t.span? span = some record) ∧ ¬ d.foreign (span.span - 1)

structure Parallel (d : Division) (t u : Telemetry) : Prop where
  common : t.common = u.common
  settings : t.settings = d.settings
  records : Telemetry.Records d.Beside t u
  grown : d.before.length ≤ t.spans.length
  entered : ∀ tracer ∈ t.entered, d.Owns t tracer
  outside : d.plain = true → t.entered = []

structure Compares (d : Division) (t u : Telemetry) : Prop where
  parallel : d.Parallel t u
  news : ∃ news news', t.journal = d.pool ++ news ∧ u.journal = d.alone ++ news' ∧ unreported news = unreported news'

section Steps

variable {d : Division} {t u t' u' : Telemetry}

theorem owns_grows {span : SpanContext} (owned : d.Owns t span) (grows : t.Grows t') : d.Owns t' span := by
  obtain ⟨⟨record, known⟩, own⟩ := owned
  obtain ⟨later, found, _⟩ := grows span record known
  exact ⟨⟨later, found⟩, own⟩

theorem parallel_reads {α : Type} (same : d.Parallel t u) (read : Telemetry → α) (shared : ∀ t, read t.common = read t) :
    read t = read u :=
  (shared t).symm.trans ((congrArg read same.common).trans (shared u))

theorem parallel_same (same : d.Parallel t u) (common : t'.common = u'.common) (settings : t'.settings = t.settings)
    (spans : t'.spans = t.spans) (spans' : u'.spans = u.spans) (entered : t'.entered ⊆ t.entered) : d.Parallel t' u' := by
  refine ⟨common, settings.trans same.settings, Telemetry.records_same same.records spans spans', ?_,
    fun tracer member => ?_, fun plain => ?_⟩
  · rw [spans]
    exact same.grown
  · exact owns_grows (same.entered tracer (entered member)) (Telemetry.grows_same t t' spans)
  · rw [same.outside plain] at entered
    exact List.subset_nil.mp entered

theorem parallel_record (same : d.Parallel t u) (entry entry' : Entry) : d.Parallel (t.record entry) (u.record entry') :=
  parallel_same same same.common rfl rfl rfl fun _ member => member

theorem own_records (same : d.Parallel t u) {span : SpanContext} (owned : d.Owns t span) : t.span? span = u.span? span := by
  have rel := Telemetry.records_span same.records span
  generalize t.span? span = first? at rel
  generalize u.span? span = second? at rel
  cases rel with
  | none => rfl
  | some beside => exact congrArg some (beside.2 owned.2)

theorem parallel_alter (same : d.Parallel t u) {span : SpanContext} (owned : d.Owns t span) (change : Span → Span)
    (extends_ : ∀ record : Span, record.Extends (change record)) : d.Parallel (t.alter span change) (u.alter span change) := by
  have bare := t.bare_alter span change
  have entered := congrArg Telemetry.entered bare
  change (t.alter span change).entered = t.entered at entered
  refine ⟨?_, ?_, ?_, ?_, ?_, ?_⟩
  · rw [Telemetry.common, Telemetry.common, bare, Telemetry.bare_alter]
    exact same.common
  · have settings := congrArg Telemetry.settings bare
    exact settings.trans same.settings
  · refine Telemetry.records_alter same.records span change change fun a b _ beside => ?_
    exact ⟨fun foreign => absurd foreign owned.2, fun own => congrArg change (beside.2 own)⟩
  · have length : (t.alter span change).spans.length = t.spans.length := by
      unfold Telemetry.alter
      split
      · rfl
      · exact List.length_modify _ _ _
    rw [length]
    exact same.grown
  · rw [entered]
    exact fun tracer member => owns_grows (same.entered tracer member) (Telemetry.grows_alter t span change extends_)
  · rw [entered]
    exact same.outside

theorem compares_same (same : d.Compares t u) (parallel : d.Parallel t' u') (left : t'.journal = t.journal)
    (right : u'.journal = u.journal) : d.Compares t' u' := by
  obtain ⟨news, news', journal, journal', all⟩ := same.news
  exact ⟨parallel, news, news', left.trans journal, right.trans journal', all⟩

theorem compares_more (same : d.Compares t u) (parallel : d.Parallel t' u') (last last' : List Entry)
    (more : unreported last = unreported last') (left : t'.journal = t.journal ++ last)
    (right : u'.journal = u.journal ++ last') : d.Compares t' u' := by
  obtain ⟨news, news', journal, journal', all⟩ := same.news
  refine ⟨parallel, news ++ last, news' ++ last', by rw [left, journal, List.append_assoc],
    by rw [right, journal', List.append_assoc], ?_⟩
  rw [unreported_append, unreported_append, all, more]

theorem compares_record (same : d.Compares t u) (entry : Entry) : d.Compares (t.record entry) (u.record entry) :=
  compares_more same (parallel_record same.parallel entry entry) [entry] [entry] rfl rfl rfl

theorem compares_alter (same : d.Compares t u) {span : SpanContext} (owned : d.Owns t span) (change : Span → Span)
    (extends_ : ∀ record : Span, record.Extends (change record)) : d.Compares (t.alter span change) (u.alter span change) :=
  compares_same same (parallel_alter same.parallel owned change extends_) (t.journal_alter span change)
    (u.journal_alter span change)

theorem compares_act (same : d.Compares t u) {span : SpanContext} (owned : d.Owns t span) (actions : List SpanAction) :
    d.Compares (t.act span actions) (u.act span actions) := by
  induction actions generalizing t u with
  | nil => exact same
  | cons action rest ih =>
      have recording := Span.extends_recording fun record => record.extends_action action
      exact ih (compares_alter same owned _ recording) (owns_grows owned (Telemetry.grows_alter t span _ recording))

theorem compares_log (same : d.Compares t u) (level : LogLevel) (message : String) (fields : List (String × String)) :
    d.Compares (t.log level message fields) (u.log level message fields) := by
  have noted := compares_record same (.logged ⟨level, message, fields⟩)
  have entered := parallel_reads same.parallel Telemetry.entered fun _ => rfl
  cases inside : t.entered with
  | nil =>
      rw [t.log_outside _ _ _ inside, u.log_outside _ _ _ (entered.symm.trans inside)]
      exact noted
  | cons tracer rest =>
      have owned : d.Owns t tracer := same.parallel.entered tracer (by rw [inside]; exact List.mem_cons_self)
      have owned' : d.Owns (t.record (.logged ⟨level, message, fields⟩)) tracer := owns_grows owned (Telemetry.grows_same t _ rfl)
      rw [t.log_inside _ _ _ tracer rest inside, u.log_inside _ _ _ tracer rest (entered.symm.trans inside)]
      split <;> exact compares_act noted owned' _

theorem compares_end (same : d.Compares t u) {span : SpanContext} (owned : d.Owns t span) :
    d.Compares (t.endSpan span) (u.endSpan span) := by
  cases Telemetry.records_end same.parallel.records span fun a b beside _ => congrArg Span.ended (beside.2 owned.2) with
  | stays left right =>
      rw [left, right]
      exact same
  | ends a b known beside left right =>
      obtain rfl := beside.2 owned.2
      rw [left, right]
      exact compares_record (compares_alter same owned Span.stopped fun record => record.extends_flags _ _) _

theorem parallel_next (same : d.Parallel t u) (parent : Context) : t.nextContext parent = u.nextContext parent := by
  rw [Telemetry.nextContext, Telemetry.nextContext, Telemetry.nextTrace, Telemetry.nextTrace,
    Telemetry.records_length same.records, parallel_reads same Telemetry.traces fun _ => rfl,
    parallel_reads same Telemetry.sampler fun _ => rfl]

theorem owns_start (same : d.Parallel t u) (name : String) (kind : SpanKind) (parent : Context) (attributes : List Attribute)
    (links : List SpanContext) : d.Owns (t.startSpan name kind parent attributes links).2 (t.nextContext parent) := by
  refine ⟨⟨_, t.span_start name kind parent attributes links⟩, fun foreign => ?_⟩
  have place : (t.nextContext parent).span - 1 = t.spans.length := rfl
  have low := d.low _ foreign
  have grown := same.grown
  omega

theorem compares_start (same : d.Compares t u) (name : String) (kind : SpanKind) (parent : Context)
    (attributes : List Attribute) (links : List SpanContext) :
    d.Compares (t.startSpan name kind parent attributes links).2 (u.startSpan name kind parent attributes links).2 := by
  have parallel := same.parallel
  have next := parallel_next parallel parent
  have grows := Telemetry.grows_start t name kind parent attributes links
  have started : d.Parallel (t.startSpan name kind parent attributes links).2
      (u.startSpan name kind parent attributes links).2 := by
    refine ⟨?_, parallel.settings, ?_, ?_, fun tracer member => owns_grows (parallel.entered tracer member) grows,
      parallel.outside⟩
    · exact congrArg (fun t : Telemetry => { t with traces := if parent.span?.isSome then t.traces else t.traces + 1 })
        parallel.common
    · refine Telemetry.records_start parallel.records name kind parent attributes links next fun record =>
        ⟨fun foreign => ?_, fun _ => rfl⟩
      have low := d.low _ foreign
      have grown := parallel.grown
      omega
    · change d.before.length ≤ (t.spans ++ [_]).length
      rw [List.length_append]
      exact Nat.le_add_right_of_le parallel.grown
  refine compares_more same started _ _ rfl rfl ?_
  rw [next]
  rfl

theorem compares_call (same : d.Compares t u) {span : SpanContext} (owned : d.Owns t span) (here : t.current = u.current)
    (hook : Hook) (decorator : Decorator) :
    d.Compares (DecoratorChain.runOne hook (some span) t decorator) (DecoratorChain.runOne hook (some span) u decorator) := by
  have sight : (⟨span, t.current, t.isRecording span⟩ : Sight) = ⟨span, u.current, u.isRecording span⟩ := by
    rw [here, Telemetry.isRecording, Telemetry.isRecording, own_records same.parallel owned]
  have called := compares_record same
    (.called decorator.name decorator.observed hook (some ⟨span, t.current, t.isRecording span⟩))
  have acted := compares_act called (owns_grows owned (Telemetry.grows_same t _ rfl)) (decorator.react hook).actions
  cases panic : (decorator.react hook).panic? with
  | none =>
      simp only [DecoratorChain.runOne, panic, Option.map_some, ← sight]
      exact acted
  | some payload =>
      simp only [DecoratorChain.runOne, panic, Option.map_some, ← sight]
      exact compares_log acted .error _ _

theorem compares_invoke (same : d.Compares t u) {span : SpanContext} (owned : d.Owns t span) (here : t.current = u.current)
    (hook : Hook) (chain : DecoratorChain) :
    d.Compares (chain.invoke hook (some span) t) (chain.invoke hook (some span) u) := by
  have calls : ∀ (decorators : List Decorator) (t u : Telemetry), d.Compares t u → d.Owns t span → t.current = u.current →
      d.Compares (decorators.foldl (DecoratorChain.runOne hook (some span)) t)
        (decorators.foldl (DecoratorChain.runOne hook (some span)) u) := by
    intro decorators
    induction decorators with
    | nil => exact fun _ _ same _ _ => same
    | cons decorator rest ih =>
        intro t u same owned here
        refine ih _ _ (compares_call same owned here hook decorator)
          (owns_grows owned (DecoratorChain.grows_run_one hook (some span) t decorator)) ?_
        rw [Telemetry.current, Telemetry.current, DecoratorChain.ambient_run_one, DecoratorChain.ambient_run_one]
        exact here
  exact calls _ _ _ (compares_record same (.round hook (some span))) (owns_grows owned (Telemetry.grows_same t _ rfl)) here

theorem compares_report (same : d.Compares t u) (plain : d.plain = true) (a b : HandlerCoordinator) (handler : Handler) :
    d.Compares (a.reportMissing handler t) (b.reportMissing handler u) := by
  have outside := same.parallel.outside plain
  have outside' : u.entered = [] := (parallel_reads same.parallel Telemetry.entered fun _ => rfl).symm.trans outside
  have complaint : ∀ (c : HandlerCoordinator) (t : Telemetry), t.entered = [] →
      ∃ last, unreported last = [] ∧ (c.reportMissing handler t).journal = t.journal ++ last ∧
        (c.reportMissing handler t).common = t.common ∧ (c.reportMissing handler t).settings = t.settings ∧
        (c.reportMissing handler t).spans = t.spans ∧ (c.reportMissing handler t).entered = t.entered := by
    intro c t outside
    unfold HandlerCoordinator.reportMissing
    split
    · exact ⟨[], rfl, by simp, rfl, rfl, rfl, rfl⟩
    · have noted (fields : List (String × String)) := Telemetry.log_outside { t with reported := c.name :: t.reported } .error
        "no server span on request; install the server tracing layer in front of handlers" fields outside
      rw [noted]
      exact ⟨[_], rfl, rfl, rfl, rfl, rfl, rfl⟩
  obtain ⟨last, silent, journal, common, settings, spans, entered⟩ := complaint a t outside
  obtain ⟨last', silent', journal', common', _, spans', _⟩ := complaint b u outside'
  refine compares_more same (parallel_same same.parallel ?_ settings spans spans' ?_) last last'
    (silent.trans silent'.symm) journal journal'
  · rw [common, common']
    exact same.parallel.common
  · rw [entered]
    exact fun _ member => member

end Steps

end Division

def apart : Pairing where
  World := Division
  rel d t u := d.Compares t u
  covers d t
    | .span span => d.Owns t span
    | .tracer tracer => d.plain = false ∧ d.Owns t tracer
    | .localSpans => d.plain = false
    | .missing => d.plain = true
  chains c e := e = c
  heads _ := True
  headed _ _ := trivial
  lasts := by
    rintro d t t' (span | tracer | _ | _) grows covered
    · exact Division.owns_grows covered grows
    · exact ⟨covered.1, Division.owns_grows covered.2 grows⟩
    · exact covered
    · exact covered
  installed same := Division.parallel_reads same.parallel Telemetry.installed fun _ => rfl
  bridged same := Division.parallel_reads same.parallel Telemetry.bridged fun _ => rfl
  held same := Division.parallel_reads same.parallel Telemetry.held fun _ => rfl
  entered := by
    intro d t u same
    refine ⟨Division.parallel_reads same.parallel Telemetry.entered fun _ => rfl, fun tracer member =>
      ⟨?_, same.parallel.entered tracer member⟩⟩
    cases plain : d.plain with
    | false => rfl
    | true =>
        rw [same.parallel.outside plain] at member
        exact absurd member List.not_mem_nil
  finished same owned := by
    rw [Telemetry.isFinished, Telemetry.isFinished, Division.own_records same.parallel owned]
  attach context same := Division.compares_same same
    (Division.parallel_same same.parallel same.parallel.common rfl rfl rfl fun _ member => member) rfl rfl
  detach same := Division.compares_same same
    (Division.parallel_same same.parallel same.parallel.common rfl rfl rfl fun _ member => member) rfl rfl
  record entry same _ := Division.compares_record same entry
  act actions same covered := Division.compares_act same (covered.elim id And.right) actions
  mark same owned := Division.compares_alter same owned _ fun record => record.extends_flags _ _
  ends same covered := Division.compares_end same (covered.elim id And.right)
  start name kind parent attributes links same := ⟨Division.parallel_next same.parallel parent,
    Division.compares_start same name kind parent attributes links,
    Division.owns_start same.parallel name kind parent attributes links⟩
  startLocal name kind parent attributes links same _ covered _ :=
    ⟨covered, Division.owns_start same.parallel name kind parent attributes links⟩
  enter := by
    intro d t u tracer same covered
    have common := same.parallel.common
    refine Division.compares_same same ⟨?_, same.parallel.settings, same.parallel.records, same.parallel.grown, ?_, ?_⟩ rfl rfl
    · exact congrArg (fun common : Telemetry => { common with entered := tracer :: common.entered }) common
    · intro other member
      cases member with
      | head => exact covered.2
      | tail _ older => exact same.parallel.entered other older
    · intro plain
      exact absurd (plain.symm.trans covered.1) (by decide)
  exit same := Division.compares_same same (Division.parallel_same same.parallel
    (congrArg (fun common : Telemetry => { common with entered := common.entered.tail }) same.parallel.common) rfl rfl
    rfl fun _ => List.mem_of_mem_tail) rfl rfl
  report a b handler same plain _ := Division.compares_report same plain a b handler
  invoke := by
    rintro d t u span c e hook same owned rfl here there
    exact Division.compares_invoke same owned (here.trans there.symm) hook e

end RequestSpans
