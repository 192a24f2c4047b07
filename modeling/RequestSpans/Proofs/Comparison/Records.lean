import RequestSpans.Proofs.Growth

set_option autoImplicit false

namespace RequestSpans

def Span.stopped (record : Span) : Span := { record with ended := true }

namespace Telemetry

def bare (t : Telemetry) : Telemetry := { t with spans := [], journal := [] }

def Records (R : Nat → Span → Span → Prop) (t u : Telemetry) : Prop :=
  ∀ index : Nat, Option.Rel (R index) t.spans[index]? u.spans[index]?

section Steps

variable (t : Telemetry)

@[simp] theorem bare_record (entry : Entry) : (t.record entry).bare = t.bare := rfl

@[simp] theorem bare_alter (span : SpanContext) (change : Span → Span) : (t.alter span change).bare = t.bare := by
  unfold alter
  split <;> rfl

@[simp] theorem bare_act (span : SpanContext) (actions : List SpanAction) : (t.act span actions).bare = t.bare := by
  unfold act
  induction actions generalizing t with
  | nil => rfl
  | cons action rest ih => rw [List.foldl_cons, ih, update, bare_alter]

@[simp] theorem bare_log (level : LogLevel) (message : String) (fields : List (String × String)) :
    (t.log level message fields).bare = t.bare := by
  unfold log
  dsimp only
  split
  · rfl
  · split <;> simp [update]

@[simp] theorem bare_end (span : SpanContext) : (t.endSpan span).bare = t.bare := by
  unfold endSpan
  split
  · rfl
  · split <;> rfl

theorem log_outside (level : LogLevel) (message : String) (fields : List (String × String)) (outside : t.entered = []) :
    t.log level message fields = t.record (.logged ⟨level, message, fields⟩) := by
  simp [log, record, outside]

def logEvent (level : LogLevel) (message : String) (fields : List (String × String)) : SpanEvent :=
  ⟨message, ("level", .text level.name.toUpper) :: fields.map fun (k, v) => (k, .text v)⟩

theorem log_inside (level : LogLevel) (message : String) (fields : List (String × String)) (tracer : SpanContext)
    (rest : List SpanContext) (inside : t.entered = tracer :: rest) :
    t.log level message fields = if level = .error then
      ((t.record (.logged ⟨level, message, fields⟩)).act tracer [.event (logEvent level message fields), .status (.error "")])
    else (t.record (.logged ⟨level, message, fields⟩)).act tracer [.event (logEvent level message fields)] := by
  simp only [log, record, inside]
  split <;> rfl

theorem end_open (span : SpanContext) (found : Span) (known : t.span? span = some found) (running : found.ended = false) :
    t.endSpan span = (t.alter span Span.stopped).record (.ended found.stopped) := by
  rw [alter_known t span found _ known]
  simp only [endSpan, known, running]
  rfl

theorem alter_self (span : SpanContext) : (t.alter span fun record => record) = t := by
  unfold alter
  split
  · rfl
  · exact congrArg (fun spans => { t with spans := spans }) (List.modify_id _ _)

end Steps

theorem missing_same {S : Span → Span → Prop} {first? second? : Option Span} (rel : Option.Rel S first? second?) :
    first? = none ↔ second? = none := by
  cases rel <;> simp

theorem any_same {S : Span → Span → Prop} {test : Span → Bool} {first? second? : Option Span}
    (keeps : ∀ a b, S a b → test a = test b) (rel : Option.Rel S first? second?) : first?.any test = second?.any test := by
  cases rel with
  | none => rfl
  | some related => exact keeps _ _ related

section Compared

variable {R : Nat → Span → Span → Prop} {t u t' u' : Telemetry}

theorem records_length (records : Records R t u) : t.spans.length = u.spans.length := by
  have ends : ∀ index, t.spans.length ≤ index ↔ u.spans.length ≤ index := by
    intro index
    rw [← List.getElem?_eq_none_iff, ← List.getElem?_eq_none_iff]
    exact missing_same (records index)
  exact Nat.le_antisymm ((ends _).mpr (Nat.le_refl _)) ((ends _).mp (Nat.le_refl _))

theorem records_span (records : Records R t u) (span : SpanContext) :
    Option.Rel (R (span.span - 1)) (t.span? span) (u.span? span) := by
  unfold span?
  split
  · exact .none
  · exact records _

theorem records_same (records : Records R t u) (spans : t'.spans = t.spans) (spans' : u'.spans = u.spans) : Records R t' u' := by
  intro index
  rw [spans, spans']
  exact records index

theorem records_alter (records : Records R t u) (span : SpanContext) (change other : Span → Span)
    (keeps : ∀ a b, t.span? span = some a → R (span.span - 1) a b → R (span.span - 1) (change a) (other b)) :
    Records R (t.alter span change) (u.alter span other) := by
  intro index
  by_cases away : (span.remote || decide (span.span = 0)) = true
  · simp only [alter, away, if_true]
    exact records index
  · have rel := records index
    have known : span.span - 1 = index → t.span? span = t.spans[index]? := by
      rintro rfl
      simp only [span?, away]
      rfl
    simp only [alter, away, Bool.false_eq_true, if_false, List.getElem?_modify]
    generalize t.spans[index]? = first? at rel known
    generalize u.spans[index]? = second? at rel
    cases rel with
    | none => exact .none
    | some related =>
        by_cases here : span.span - 1 = index
        · subst here
          simp only [if_true]
          exact .some (keeps _ _ (known rfl) related)
        · simp only [here, if_false]
          exact .some related

theorem records_start (records : Records R t u) (name : String) (kind : SpanKind) (parent : Context)
    (attributes : List Attribute) (links : List SpanContext) (next : t.nextContext parent = u.nextContext parent)
    (new : ∀ record, R t.spans.length record record) :
    Records R (t.startSpan name kind parent attributes links).2 (u.startSpan name kind parent attributes links).2 := by
  intro index
  change Option.Rel _ (t.spans ++ [_])[index]? (u.spans ++ [_])[index]?
  rw [List.getElem?_append, List.getElem?_append, ← records_length records, next]
  split
  · exact records index
  · cases place : index - t.spans.length with
    | zero =>
        obtain rfl : index = t.spans.length := by omega
        exact .some (new _)
    | succ beyond => exact .none

inductive Ends (R : Nat → Span → Span → Prop) (t u : Telemetry) (span : SpanContext) : Prop
  | stays (left : t.endSpan span = t) (right : u.endSpan span = u) : Ends R t u span
  | ends (a b : Span) (known : t.span? span = some a) (related : R (span.span - 1) a b)
      (left : t.endSpan span = (t.alter span Span.stopped).record (.ended a.stopped))
      (right : u.endSpan span = (u.alter span Span.stopped).record (.ended b.stopped)) : Ends R t u span

theorem records_end (records : Records R t u) (span : SpanContext)
    (same : ∀ a b, R (span.span - 1) a b → t.span? span = some a → a.ended = b.ended) : Ends R t u span := by
  have rel := records_span records span
  cases known : t.span? span with
  | none =>
      have known' : u.span? span = none := (missing_same rel).mp known
      exact .stays (by simp only [endSpan, known]) (by simp only [endSpan, known'])
  | some a =>
      rw [known] at rel
      generalize known' : u.span? span = b? at rel
      cases rel with
      | @some _ b related =>
          have same := same a b related known
          cases stopped : a.ended with
          | true =>
              have stopped' : b.ended = true := same.symm.trans stopped
              exact .stays (by simp only [endSpan, known, stopped, if_true]) (by simp only [endSpan, known', stopped', if_true])
          | false => exact .ends a b known related (t.end_open span a known stopped) (u.end_open span b known' (same.symm.trans stopped))

end Compared

end Telemetry

namespace DecoratorChain

theorem bare_run_one (hook : Hook) (span? : Option SpanContext) (t : Telemetry) (decorator : Decorator) :
    (runOne hook span? t decorator).bare = t.bare := by
  cases span? <;> cases panic : (decorator.react hook).panic? <;> simp [runOne, panic]

@[simp] theorem bare_invoke (chain : DecoratorChain) (hook : Hook) (span? : Option SpanContext) (t : Telemetry) :
    (chain.invoke hook span? t).bare = t.bare := by
  have calls : ∀ (decorators : List Decorator) (before : Telemetry),
      (decorators.foldl (runOne hook span?) before).bare = before.bare := by
    intro decorators
    induction decorators with
    | nil => exact fun _ => rfl
    | cons decorator rest ih => exact fun before => (ih _).trans (bare_run_one hook span? before decorator)
  exact calls _ _

end DecoratorChain

end RequestSpans
