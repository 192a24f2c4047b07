import RequestSpans.Telemetry

/-!
The ledger of a process: which spans were started, finished and ended, and how this lies in time
between the rounds of the decorators. Logs, tags and ambient contexts leave no trace in it.
-/
set_option autoImplicit false

namespace RequestSpans

inductive Milestone where
  | started (span : SpanContext) (parent? : Option SpanContext) (links : List SpanContext)
  | round (hook : Hook) (span? : Option SpanContext)
  | called (decorator : String) (hook : Hook) (span? : Option SpanContext)
  | finishing (span : SpanContext) (first : Bool)
  | ended (span : SpanContext)
deriving DecidableEq

def Entry.milestone? : Entry → Option Milestone
  | .started span => some (.started span.context span.parent? span.links)
  | .round hook span? => some (.round hook span?)
  | .called decorator _ hook sight? => some (.called decorator hook (sight?.map (·.span)))
  | .finishing span first => some (.finishing span first)
  | .ended span => some (.ended span.context)
  | _ => none

-- What decorators cannot change about a span. A wrapper sets `finished`, the
-- tracer sets `ended`; nothing in the types keeps the two in step.
structure Standing where
  context : SpanContext
  finished : Bool
  ended : Bool
deriving DecidableEq

def Span.standing (span : Span) : Standing := ⟨span.context, span.finished, span.ended⟩

structure Ledger where
  standings : List Standing
  history : List Milestone
deriving DecidableEq

namespace Ledger

def standing? (l : Ledger) (span : SpanContext) : Option Standing :=
  if span.remote || span.span = 0 then none else l.standings[span.span - 1]?

def finished (l : Ledger) (span : SpanContext) : Bool := (l.standing? span).any (·.finished)

def Next (l : Ledger) (span : SpanContext) : Prop := span.remote = false ∧ span.span = l.standings.length + 1

def note (l : Ledger) (milestones : List Milestone) : Ledger :=
  { l with history := l.history ++ milestones }

def start (l : Ledger) (span : SpanContext) (parent? : Option SpanContext) (links : List SpanContext) : Ledger :=
  ⟨l.standings ++ [⟨span, false, false⟩], l.history ++ [.started span parent? links]⟩

-- The wrapper of a span: the span that it holds and its flag. Only those who
-- have the wrapper can set the flag; ending the span directly leaves it alone.
def wrapper? (l : Ledger) (span : SpanContext) : Option (SpanContext × Bool) :=
  (l.standing? span).map fun standing => (standing.context, standing.finished)

-- The first finish of a span. Somebody may have ended the span already behind
-- the wrapper's back; then there is no second end.
def closure (l : Ledger) (span : SpanContext) : List Milestone :=
  match l.standing? span with
  | some ⟨context, _, false⟩ => [.finishing span true, .ended context]
  | _ => [.finishing span true]

def close (l : Ledger) (span : SpanContext) : Ledger :=
  match l.standing? span with
  | none => l.note (l.closure span)
  | some standing =>
      ⟨l.standings.set (span.span - 1) ⟨standing.context, true, true⟩, l.history ++ l.closure span⟩

theorem note_note (l : Ledger) (a b : List Milestone) : (l.note a).note b = l.note (a ++ b) := by
  simp [note]

theorem note_nil (l : Ledger) : l.note [] = l := by
  simp [note]

@[simp] theorem standing_note (l : Ledger) (milestones : List Milestone) (span : SpanContext) :
    (l.note milestones).standing? span = l.standing? span := rfl

@[simp] theorem finished_note (l : Ledger) (milestones : List Milestone) (span : SpanContext) :
    (l.note milestones).finished span = l.finished span := rfl

theorem standing_local (l : Ledger) (span : SpanContext) (standing : Standing) (known : l.standing? span = some standing) :
    span.remote = false ∧ 0 < span.span ∧ l.standings[span.span - 1]? = some standing := by
  unfold standing? at known
  split at known
  · contradiction
  · rename_i own
    simp only [Bool.or_eq_true, decide_eq_true_eq, not_or, Bool.not_eq_true] at own
    exact ⟨own.1, Nat.pos_of_ne_zero own.2, known⟩

theorem standing_of_local (l : Ledger) (span : SpanContext) (own : span.remote = false) (positive : 0 < span.span) :
    l.standing? span = l.standings[span.span - 1]? := by
  have nonzero : span.span ≠ 0 := Nat.ne_of_gt positive
  simp [standing?, own, nonzero]

theorem standing_bound (l : Ledger) (span : SpanContext) (standing : Standing) (known : l.standing? span = some standing) :
    span.span ≤ l.standings.length := by
  obtain ⟨_, positive, present⟩ := standing_local l span standing known
  have bound := (List.getElem?_eq_some_iff.mp present).1
  omega

theorem standing_start_old (l : Ledger) (fresh span : SpanContext) (parent? : Option SpanContext)
    (links : List SpanContext) (standing : Standing) (known : l.standing? span = some standing) :
    (l.start fresh parent? links).standing? span = some standing := by
  obtain ⟨own, positive, present⟩ := standing_local l span standing known
  have bound := (List.getElem?_eq_some_iff.mp present).1
  rw [standing_of_local _ span own positive]
  simpa only [start, List.getElem?_append_left bound] using present

theorem standing_start_new (l : Ledger) (fresh : SpanContext) (parent? : Option SpanContext)
    (links : List SpanContext) (next : l.Next fresh) :
    (l.start fresh parent? links).standing? fresh = some ⟨fresh, false, false⟩ := by
  obtain ⟨own, last⟩ := next
  rw [standing_of_local _ fresh own (by omega)]
  simp [start, last]

theorem close_standings (l : Ledger) (span : SpanContext) (standing : Standing) (known : l.standing? span = some standing) :
    l.close span = ⟨l.standings.set (span.span - 1) ⟨standing.context, true, true⟩, l.history ++ l.closure span⟩ := by
  simp only [close, known]

@[simp] theorem close_history (l : Ledger) (span : SpanContext) :
    (l.close span).history = l.history ++ l.closure span := by
  unfold close
  split <;> rfl

theorem standing_close_self (l : Ledger) (span : SpanContext) (standing : Standing) (known : l.standing? span = some standing) :
    (l.close span).standing? span = some ⟨standing.context, true, true⟩ := by
  obtain ⟨own, positive, present⟩ := standing_local l span standing known
  have bound := (List.getElem?_eq_some_iff.mp present).1
  rw [close_standings l span standing known, standing_of_local _ span own positive]
  simp [bound]

theorem standing_close_other (l : Ledger) (closed span : SpanContext) (different : span.span ≠ closed.span) :
    (l.close closed).standing? span = l.standing? span := by
  cases known : l.standing? closed with
  | none => simp [close, known]
  | some standing =>
      obtain ⟨_, positive, _⟩ := standing_local l closed standing known
      rw [close_standings l closed standing known]
      by_cases own : span.remote = false ∧ 0 < span.span
      · rw [standing_of_local _ span own.1 own.2, standing_of_local _ span own.1 own.2]
        exact List.getElem?_set_ne (by omega)
      · unfold standing?
        split
        · rfl
        · rename_i outside
          simp only [Bool.or_eq_true, decide_eq_true_eq, not_or, Bool.not_eq_true] at outside
          exact absurd ⟨outside.1, Nat.pos_of_ne_zero outside.2⟩ own

theorem standing_same (l : Ledger) (a b : SpanContext) (x y : Standing) (first : l.standing? a = some x)
    (second : l.standing? b = some y) (same : a.span = b.span) : x = y := by
  obtain ⟨_, _, here⟩ := standing_local l a x first
  obtain ⟨_, _, there⟩ := standing_local l b y second
  rw [same, there] at here
  exact (Option.some.inj here).symm

theorem standing_close (l : Ledger) (closed span : SpanContext) (standing : Standing)
    (known : l.standing? span = some standing) :
    (l.close closed).standing? span = some standing ∨
      (l.close closed).standing? span = some ⟨standing.context, true, true⟩ := by
  by_cases same : span.span = closed.span
  · cases found : l.standing? closed with
    | none => exact .inl (by simpa only [close, found, standing_note] using known)
    | some other =>
        obtain rfl := standing_same l span closed standing other known found same
        obtain ⟨own, positive, _⟩ := standing_local l span standing known
        obtain ⟨own', positive', _⟩ := standing_local l closed standing found
        have closing := standing_close_self l closed standing found
        rw [standing_of_local _ closed own' positive', ← same] at closing
        exact .inr (by rw [standing_of_local _ span own positive]; exact closing)
  · exact .inl (by rw [standing_close_other l closed span same]; exact known)

theorem finished_start (l : Ledger) (fresh span : SpanContext) (parent? : Option SpanContext) (links : List SpanContext)
    (stopped : l.finished span = true) : (l.start fresh parent? links).finished span = true := by
  cases known : l.standing? span with
  | none => simp [finished, known] at stopped
  | some standing =>
      rw [finished, known] at stopped
      rw [finished, l.standing_start_old fresh span parent? links standing known]
      exact stopped

theorem finished_close (l : Ledger) (closed span : SpanContext) (stopped : l.finished span = true) :
    (l.close closed).finished span = true := by
  cases known : l.standing? span with
  | none => simp [finished, known] at stopped
  | some standing =>
      rw [finished, known] at stopped
      rcases l.standing_close closed span standing known with same | ended
      · rw [finished, same]
        exact stopped
      · rw [finished, ended]
        rfl

theorem wrapper_standing (l : Ledger) (span : SpanContext) (finished : Bool)
    (held : l.wrapper? span = some (span, finished)) : ∃ ended, l.standing? span = some ⟨span, finished, ended⟩ := by
  obtain ⟨standing, known, same⟩ := Option.map_eq_some_iff.mp held
  obtain ⟨context, flag, ended⟩ := standing
  simp only [Prod.mk.injEq] at same
  obtain ⟨rfl, rfl⟩ := same
  exact ⟨ended, known⟩

theorem standing_wrapper (l : Ledger) (span : SpanContext) (finished ended : Bool)
    (known : l.standing? span = some ⟨span, finished, ended⟩) : l.wrapper? span = some (span, finished) := by
  simp only [wrapper?, known, Option.map_some]

theorem closure_running (l : Ledger) (span : SpanContext) (ended : Bool)
    (running : l.standing? span = some ⟨span, false, ended⟩) :
    l.closure span = .finishing span true :: if ended then [] else [.ended span] := by
  cases ended <;> simp [closure, running]

def Tidy (l : Ledger) (span : SpanContext) : Prop := ∃ stopped, l.standing? span = some ⟨span, stopped, stopped⟩

theorem tidy_start_old (l : Ledger) (fresh span : SpanContext) (parent? : Option SpanContext) (links : List SpanContext)
    (tidy : l.Tidy span) : (l.start fresh parent? links).Tidy span := by
  obtain ⟨stopped, known⟩ := tidy
  exact ⟨stopped, standing_start_old l fresh span parent? links _ known⟩

theorem tidy_close (l : Ledger) (closed span : SpanContext) (tidy : l.Tidy span) : (l.close closed).Tidy span := by
  obtain ⟨stopped, known⟩ := tidy
  rcases standing_close l closed span _ known with same | stopped
  · exact ⟨_, same⟩
  · exact ⟨true, stopped⟩

theorem tidy_running (l : Ledger) (span : SpanContext) (tidy : l.Tidy span) (running : l.finished span = false) :
    l.standing? span = some ⟨span, false, false⟩ := by
  obtain ⟨stopped, known⟩ := tidy
  have flag : stopped = false := by simpa [finished, known] using running
  rw [known, flag]

-- The wrapper of a span has yet to finish it. Whether or not it has ended
-- already behind the wrapper's back, the history shows it: `before` ends of
-- earlier times, and one more if so.
def Open (l : Ledger) (span : SpanContext) (before : Nat) : Prop :=
  ∃ ended, l.standing? span = some ⟨span, false, ended⟩ ∧ l.history.count (.ended span) = before + ended.toNat

theorem open_wrapper (l : Ledger) (span : SpanContext) (before : Nat) (unfinished : l.Open span before) :
    l.wrapper? span = some (span, false) := by
  obtain ⟨ended, known, _⟩ := unfinished
  exact standing_wrapper l span false ended known

theorem open_start (l : Ledger) (span : SpanContext) (parent? : Option SpanContext) (links : List SpanContext)
    (next : l.Next span) : (l.start span parent? links).Open span (l.history.count (.ended span)) := by
  refine ⟨false, standing_start_new l span parent? links next, ?_⟩
  simp [start]

theorem open_note (l : Ledger) (span : SpanContext) (before : Nat) (milestones : List Milestone)
    (others : .ended span ∉ milestones) (unfinished : l.Open span before) : (l.note milestones).Open span before := by
  obtain ⟨ended, known, counted⟩ := unfinished
  refine ⟨ended, known, ?_⟩
  rw [note, List.count_append, List.count_eq_zero.mpr others, Nat.add_zero, counted]

def Closed (l : Ledger) (span : SpanContext) (ends : Nat) : Prop :=
  l.standing? span = some ⟨span, true, true⟩ ∧ l.history.count (.ended span) = ends

theorem closed_note (l : Ledger) (span : SpanContext) (ends : Nat) (milestones : List Milestone)
    (others : .ended span ∉ milestones) (finished : l.Closed span ends) : (l.note milestones).Closed span ends := by
  refine ⟨finished.1, ?_⟩
  rw [note, List.count_append, List.count_eq_zero.mpr others, Nat.add_zero, finished.2]

theorem close_open (l : Ledger) (span : SpanContext) (before : Nat) (unfinished : l.Open span before) :
    (l.close span).Closed span (before + 1) := by
  obtain ⟨ended, known, counted⟩ := unfinished
  refine ⟨standing_close_self l span _ known, ?_⟩
  rw [close_history, List.count_append, closure_running l span ended known, counted]
  cases ended <;> simp

end Ledger

namespace Telemetry

def ledger (t : Telemetry) : Ledger :=
  ⟨t.spans.map Span.standing, t.journal.filterMap Entry.milestone?⟩

def history (t : Telemetry) : List Milestone := t.ledger.history

theorem standing_span (t : Telemetry) (span : SpanContext) :
    t.ledger.standing? span = (t.span? span).map Span.standing := by
  unfold Ledger.standing? span?
  split
  · rfl
  · simp [ledger]

theorem is_finished_ledger (t : Telemetry) (span : SpanContext) : t.isFinished span = t.ledger.finished span := by
  rw [Ledger.finished, standing_span, isFinished]
  cases t.span? span <;> rfl

theorem is_finished_wrapper (t : Telemetry) (span : SpanContext) (finished : Bool)
    (held : t.ledger.wrapper? span = some (span, finished)) : t.isFinished span = finished := by
  obtain ⟨ended, known⟩ := Ledger.wrapper_standing _ span finished held
  simp [is_finished_ledger, Ledger.finished, known]

theorem is_finished_open (t : Telemetry) (span : SpanContext) (before : Nat) (unfinished : t.ledger.Open span before) :
    t.isFinished span = false :=
  t.is_finished_wrapper span false (Ledger.open_wrapper _ span before unfinished)

theorem is_finished_closed (t : Telemetry) (span : SpanContext) (ends : Nat) (finished : t.ledger.Closed span ends) :
    t.isFinished span = true :=
  t.is_finished_wrapper span true (Ledger.standing_wrapper _ span true true finished.1)

@[simp] theorem ledger_attach (t : Telemetry) (context : Context) : (t.attach context).ledger = t.ledger := rfl

@[simp] theorem ledger_within {α : Type} (t : Telemetry) (context : Context) (step : Telemetry → α × Telemetry) :
    (t.within context step).2.ledger = (step (t.attach context)).2.ledger := rfl

@[simp] theorem ledger_record (t : Telemetry) (entry : Entry) :
    (t.record entry).ledger = t.ledger.note entry.milestone?.toList := by
  cases kept : entry.milestone? <;> simp [ledger, record, Ledger.note, kept]

theorem ledger_alter (t : Telemetry) (span : SpanContext) (change : Span → Span)
    (keeps : ∀ record, (change record).standing = record.standing) : (t.alter span change).ledger = t.ledger := by
  unfold alter
  split
  · rfl
  · have same : (t.spans.modify (span.span - 1) change).map Span.standing = t.spans.map Span.standing := by
      apply List.ext_getElem?
      intro i
      by_cases here : span.span - 1 = i
      · subst i
        cases found : t.spans[span.span - 1]? <;> simp [found, keeps]
      · simp [List.getElem?_modify_ne change t.spans here]
    simp only [ledger, same]

theorem ledger_update (t : Telemetry) (span : SpanContext) (change : Span → Span)
    (keeps : ∀ record, (change record).standing = record.standing) : (t.update span change).ledger = t.ledger := by
  apply ledger_alter
  intro record
  by_cases recording : record.isRecording <;> simp [recording, keeps]

end Telemetry

theorem standing_add_attribute (span : Span) (tag : Attribute) : (span.addAttribute tag).standing = span.standing := by
  unfold Span.addAttribute
  split <;> rfl

theorem standing_add_event (span : Span) (event : SpanEvent) : (span.addEvent event).standing = span.standing := by
  unfold Span.addEvent
  split <;> rfl

theorem standing_set_status (span : Span) (status : SpanStatus) : (span.setStatus status).standing = span.standing := by
  unfold Span.setStatus
  split <;> rfl

theorem standing_action (span : Span) (action : SpanAction) : (action.apply span).standing = span.standing := by
  cases action with
  | tag pair => exact standing_add_attribute span pair
  | tags pairs =>
      change (pairs.foldl Span.addAttribute span).standing = span.standing
      induction pairs generalizing span with
      | nil => rfl
      | cons pair rest ih => rw [List.foldl_cons, ih, standing_add_attribute]
  | event entry => exact standing_add_event span entry
  | status level => exact standing_set_status span level
  | rename name => rfl
  | recordError fault =>
      simp only [SpanAction.apply, standing_add_event, standing_set_status, standing_add_attribute]

namespace Telemetry

@[simp] theorem ledger_act (t : Telemetry) (span : SpanContext) (actions : List SpanAction) :
    (t.act span actions).ledger = t.ledger := by
  unfold act
  induction actions generalizing t with
  | nil => rfl
  | cons action rest ih =>
      rw [List.foldl_cons, ih]
      exact ledger_update t span _ (fun record => standing_action record action)

@[simp] theorem ledger_log (t : Telemetry) (level : LogLevel) (message : String) (fields : List (String × String)) :
    (t.log level message fields).ledger = t.ledger := by
  have recorded : (t.record (.logged ⟨level, message, fields⟩)).ledger = t.ledger := by simp [Entry.milestone?, Ledger.note]
  unfold log
  dsimp only
  split
  · exact recorded
  · split
    · rw [ledger_update _ _ _ (fun record => standing_set_status record _),
        ledger_update _ _ _ (fun record => standing_add_event record _), recorded]
    · rw [ledger_update _ _ _ (fun record => standing_add_event record _), recorded]

@[simp] theorem ledger_start_span (t : Telemetry) (name : String) (kind : SpanKind) (parent : Context)
    (attributes : List Attribute) (links : List SpanContext) :
    (t.startSpan name kind parent attributes links).2.ledger =
      t.ledger.start (t.nextContext parent) parent.span? (links.take Span.limit) := by
  simp [startSpan, ledger, record, Ledger.start, Entry.milestone?, Span.standing]

theorem next_context_next (t : Telemetry) (parent : Context) : t.ledger.Next (t.nextContext parent) := by
  simp [nextContext, Ledger.Next, ledger]

theorem span_known (t : Telemetry) (span : SpanContext) (record : Span) (known : t.span? span = some record) :
    span.remote = false ∧ span.span ≠ 0 ∧ t.spans[span.span - 1]? = some record := by
  unfold span? at known
  split at known
  · contradiction
  · rename_i own
    simpa [and_assoc] using And.intro own known

theorem span_record (t : Telemetry) (entry : Entry) (span : SpanContext) :
    (t.record entry).span? span = t.span? span := rfl

theorem alter_known (t : Telemetry) (span : SpanContext) (record : Span) (change : Span → Span)
    (known : t.span? span = some record) :
    t.alter span change = { t with spans := t.spans.set (span.span - 1) (change record) } := by
  obtain ⟨own, nonzero, present⟩ := span_known t span record known
  have inhabited : Inhabited Span := ⟨record⟩
  have same : t.spans.modify (span.span - 1) change = t.spans.set (span.span - 1) (change record) := by
    rw [List.modify_eq_set, present]
    rfl
  simp [alter, own, nonzero, same]

theorem span_alter_self (t : Telemetry) (span : SpanContext) (record : Span) (change : Span → Span)
    (known : t.span? span = some record) : (t.alter span change).span? span = some (change record) := by
  obtain ⟨own, nonzero, present⟩ := span_known t span record known
  have bound := (List.getElem?_eq_some_iff.mp present).1
  rw [alter_known t span record change known]
  simp [span?, own, nonzero, bound]

theorem alter_unknown (t : Telemetry) (span : SpanContext) (change : Span → Span) (unknown : t.span? span = none) :
    t.alter span change = t := by
  unfold alter
  split
  · rfl
  · rename_i own
    have beyond : t.spans.length ≤ span.span - 1 := by
      simpa only [span?, own, Bool.false_eq_true, if_false, List.getElem?_eq_none_iff] using unknown
    rw [List.modify_eq_self beyond]

theorem ledger_end_span (t : Telemetry) (span : SpanContext) (found : Span) (known : t.span? span = some found) :
    (t.endSpan span).ledger =
      ⟨t.ledger.standings.set (span.span - 1) { found.standing with ended := true },
        t.ledger.history ++ if found.ended then [] else [.ended found.context]⟩ := by
  obtain ⟨_, _, present⟩ := span_known t span found known
  by_cases stopped : found.ended = true
  · have stands : t.ledger.standings[span.span - 1]? = some { found.standing with ended := true } := by
      simp [ledger, present, Span.standing, stopped]
    obtain ⟨bound, value⟩ := List.getElem?_eq_some_iff.mp stands
    rw [← value, List.set_getElem_self bound]
    simp [endSpan, known, stopped]
  · simp [endSpan, known, stopped, ledger, record, Entry.milestone?, List.map_set, Span.standing]

theorem finish_running (t : Telemetry) (span : SpanContext) (running : t.isFinished span = false) :
    (t.finish span).1 = true ∧ (t.finish span).2.ledger = t.ledger.close span := by
  have attempt : t.finish span = (true,
      ((t.record (.finishing span true)).alter span fun found => { found with finished := true }).endSpan span) := by
    simp only [finish, running, Bool.false_eq_true, if_false]
  rw [attempt]
  refine ⟨rfl, ?_⟩
  dsimp only
  cases known : t.span? span with
  | none =>
      rw [alter_unknown (t.record (.finishing span true)) span _ known]
      simp [endSpan, span_record, known, Ledger.close, Ledger.closure, standing_span, Entry.milestone?]
  | some found =>
      obtain ⟨own, nonzero, present⟩ := span_known t span found known
      have bound := (List.getElem?_eq_some_iff.mp present).1
      rw [alter_known (t.record (.finishing span true)) span found _ known]
      have marked : ({ t.record (.finishing span true) with
          spans := t.spans.set (span.span - 1) { found with finished := true } } : Telemetry).span? span =
            some { found with finished := true } := by
        simp [span?, own, nonzero, bound]
      have stands : t.ledger.standing? span = some found.standing := by rw [standing_span, known]; rfl
      rw [show (t.record (.finishing span true)).spans = t.spans from rfl, ledger_end_span _ _ _ marked,
        Ledger.close_standings _ _ _ stands, Ledger.closure, stands]
      cases stopped : found.ended <;> simp [ledger, record, Entry.milestone?, Span.standing, stopped, List.map_set]

theorem finish_finishes (t : Telemetry) (span : SpanContext) (before : Nat) (unfinished : t.ledger.Open span before) :
    (t.finish span).2.isFinished span = true := by
  have closed := (t.finish_running span (t.is_finished_open span before unfinished)).2
  have finished := Ledger.close_open _ span before unfinished
  rw [← closed] at finished
  exact is_finished_closed _ span _ finished

theorem finish_finished (t : Telemetry) (span : SpanContext) (stopped : t.isFinished span = true) :
    (t.finish span).1 = false ∧ (t.finish span).2.ledger = t.ledger.note [.finishing span false] := by
  simp [finish, stopped, Entry.milestone?]

end Telemetry

namespace DecoratorChain

def milestones (chain : DecoratorChain) (hook : Hook) (span? : Option SpanContext) : List Milestone :=
  .round hook span? :: chain.decorators.map fun decorator => .called decorator.name hook span?

theorem milestones_ended (chain : DecoratorChain) (hook : Hook) (span? : Option SpanContext) (span : SpanContext) :
    .ended span ∉ chain.milestones hook span? := by
  simp [milestones]

theorem open_milestones (chain : DecoratorChain) (hook : Hook) (span? : Option SpanContext) (l : Ledger) (span : SpanContext)
    (before : Nat) (unfinished : l.Open span before) : (l.note (chain.milestones hook span?)).Open span before :=
  Ledger.open_note l span before _ (chain.milestones_ended hook span? span) unfinished

theorem ledger_run_one (hook : Hook) (span? : Option SpanContext) (t : Telemetry) (decorator : Decorator) :
    (runOne hook span? t decorator).ledger = t.ledger.note [.called decorator.name hook span?] := by
  cases span? <;> cases panic : (decorator.react hook).panic? <;> simp [runOne, panic, Entry.milestone?]

@[simp] theorem ledger_invoke (chain : DecoratorChain) (hook : Hook) (span? : Option SpanContext) (t : Telemetry) :
    (chain.invoke hook span? t).ledger = t.ledger.note (chain.milestones hook span?) := by
  have calls : ∀ (decorators : List Decorator) (before : Telemetry),
      (decorators.foldl (runOne hook span?) before).ledger =
        before.ledger.note (decorators.map fun decorator => .called decorator.name hook span?) := by
    intro decorators
    induction decorators with
    | nil => intro before; simp [Ledger.note]
    | cons decorator rest ih =>
        intro before
        rw [List.foldl_cons, ih, ledger_run_one, Ledger.note_note]
        rfl
  rw [invoke, calls, Telemetry.ledger_record, Ledger.note_note]
  rfl

end DecoratorChain

end RequestSpans
