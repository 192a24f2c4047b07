import RequestSpans.Proofs.Client.Call
import RequestSpans.Proofs.Comparison.Basic
import RequestSpans.Proofs.Server.Boundary
import RequestSpans.Scenario.Single

set_option autoImplicit false

namespace RequestSpans

open Scenario.Single (endedSpans)

def Fault.story : List String → String
  | [] => ""
  | [cause] => cause
  | cause :: next :: rest => cause ++ "\ncaused by: " ++ Fault.story (next :: rest)

def Fault.stack (fault : Fault) : List Attribute :=
  match fault.causes with
  | [] => []
  | cause :: rest => [("stack", .text (Fault.story (cause :: rest)))]

namespace Signal

def codes : Signal → List Attribute
  | .success response => [("http.status_code", .int response.status.code)]
  | .failure _ => []
  | .cancelled => []

def errors : Signal → List Attribute
  | .success _ => []
  | .failure _ => [("error", .flag true)]
  | .cancelled => []

def events (kind : SpanKind) : Signal → List SpanEvent
  | .success _ => []
  | .failure fault =>
    [⟨"error",
      [("event", .text "error"), ("error.object", .text fault.debug), ("message", .text fault.message)] ++ fault.stack⟩]
  | .cancelled => if kind = .client then [⟨"cancelled", [("event", .text "cancelled")]⟩] else []

def status (kind : SpanKind) : Signal → SpanStatus
  | .success response =>
    if kind = .server ∧ 500 ≤ response.status.code ∧ response.status.code ≤ 599 then .error response.status.describe
    else .unset
  | .failure fault => .error fault.message
  | .cancelled => .unset

end Signal

def Signal.serverActions : Signal → List SpanAction
  | .success response => ServerTags.onResponse response ++ ServerBoundary.statusActions response
  | .failure fault => [.recordError fault]
  | .cancelled => []

def Signal.clientActions : Signal → List SpanAction
  | .success response => [.tag ("http.status_code", .int response.status.code)]
  | .failure fault => [.recordError fault]
  | .cancelled => [.event ⟨"cancelled", [("event", .text "cancelled")]⟩]

theorem joined_story (causes : List String) : "\ncaused by: ".intercalate causes = Fault.story causes := by
  induction causes with
  | nil => exact String.intercalate_nil
  | cons cause rest ih =>
      cases rest with
      | nil => exact String.intercalate_singleton
      | cons next rest => rw [String.intercalate_cons_cons, ih, Fault.story]

theorem fault_event_story (kind : SpanKind) (fault : Fault) :
    [SpanAction.faultEvent fault] = Signal.events kind (.failure fault) := by
  obtain ⟨message, causes⟩ := fault
  cases causes with
  | nil => rfl
  | cons cause rest =>
      simp only [SpanAction.faultEvent, Signal.events, Fault.stack, List.isEmpty_cons, Bool.false_eq_true, if_false,
        joined_story]

def timeout : Fault := ⟨"timed out", ["connection lost", "host is down"]⟩

example : SpanAction.faultEvent timeout = ⟨"error",
    [("event", .text "error"), ("error.object", .text "Fault(timed out)"), ("message", .text "timed out"),
      ("stack", .text "connection lost\ncaused by: host is down")]⟩ := by decide

namespace Span

def acted (span : Span) (actions : List SpanAction) : Span := actions.foldl (fun span action => action.apply span) span

def Neutral (tag : Attribute) : Prop := tag.1 ≠ "http.status_code" ∧ tag.1 ≠ "error"

structure Untold (span : Span) : Prop where
  room : span.attributes.length < limit
  neutral : ∀ tag ∈ span.attributes, Neutral tag
  events : span.events = []
  status : span.status = .unset
  finished : span.finished = false
  running : span.ended = false

structure Tells (span : Span) (signal : Signal) : Prop where
  codes : span.attributes.filter (fun tag => tag.1 = "http.status_code") = signal.codes
  errors : span.attributes.filter (fun tag => tag.1 = "error") = signal.errors
  events : span.events = signal.events span.kind
  status : span.status = signal.status span.kind

theorem acted_append (span : Span) (first later : List SpanAction) :
    span.acted (first ++ later) = (span.acted first).acted later :=
  List.foldl_append

theorem extends_acted (span : Span) (actions : List SpanAction) : span.Extends (span.acted actions) := by
  induction actions generalizing span with
  | nil => exact span.extends_self
  | cons action rest ih => exact extends_trans (span.extends_action action) (ih _)

theorem standing_acted (span : Span) (actions : List SpanAction) : (span.acted actions).standing = span.standing := by
  induction actions generalizing span with
  | nil => rfl
  | cons action rest ih => exact (ih _).trans (standing_action span action)

theorem recording_acted (span : Span) (actions : List SpanAction) : (span.acted actions).isRecording = span.isRecording := by
  have same := span.standing_acted actions
  simp only [standing, Standing.mk.injEq] at same
  simp only [isRecording, same]

theorem add_attribute_room (span : Span) (tag : Attribute) (room : span.attributes.length < limit) :
    span.addAttribute tag = { span with attributes := span.attributes ++ [tag] } := by
  rw [addAttribute, if_pos room]

theorem add_attributes_room (span : Span) (tags : List Attribute) (room : span.attributes.length + tags.length ≤ limit) :
    tags.foldl addAttribute span = { span with attributes := span.attributes ++ tags } := by
  induction tags generalizing span with
  | nil => simp
  | cons tag rest ih =>
      rw [List.length_cons] at room
      rw [List.foldl_cons, add_attribute_room span tag (by omega), ih _ (by simp; omega)]
      simp

theorem untold_tags (span : Span) (tags : List Attribute) (untold : span.Untold) (neutral : ∀ tag ∈ tags, Neutral tag)
    (room : span.attributes.length + tags.length < limit) : (tags.foldl addAttribute span).Untold := by
  rw [add_attributes_room span tags (Nat.le_of_lt room)]
  refine ⟨by simpa using room, ?_, untold.events, untold.status, untold.finished, untold.running⟩
  intro tag present
  rcases List.mem_append.mp present with known | added
  · exact untold.neutral tag known
  · exact neutral tag added

theorem untold_filters (span : Span) (untold : span.Untold) :
    span.attributes.filter (fun tag => tag.1 = "http.status_code") = [] ∧
      span.attributes.filter (fun tag => tag.1 = "error") = [] := by
  constructor <;> refine List.filter_eq_nil_iff.mpr fun tag present => ?_
  · simpa using (untold.neutral tag present).1
  · simpa using (untold.neutral tag present).2

section Untold

variable (span : Span) (untold : span.Untold)

include untold

theorem told_filters (tag : Attribute) :
    (span.attributes ++ [tag]).filter (fun tag => tag.1 = "http.status_code") =
        [tag].filter (fun tag => tag.1 = "http.status_code") ∧
      (span.attributes ++ [tag]).filter (fun tag => tag.1 = "error") = [tag].filter (fun tag => tag.1 = "error") := by
  obtain ⟨codes, errors⟩ := span.untold_filters untold
  rw [List.filter_append, List.filter_append, codes, errors]
  exact ⟨rfl, rfl⟩

theorem tells_response (response : Response) (status : SpanStatus)
    (level : status = (Signal.success response).status span.kind) :
    { span with attributes := span.attributes ++ [("http.status_code", Scalar.int response.status.code)], status }.Tells
      (.success response) := by
  obtain ⟨codes, errors⟩ := span.told_filters untold ("http.status_code", .int response.status.code)
  exact ⟨codes, errors, untold.events, level⟩

theorem tells_fault (fault : Fault) : (span.acted [.recordError fault]).Tells (.failure fault) := by
  obtain ⟨codes, errors⟩ := span.told_filters untold ("error", .flag true)
  have short : (SpanAction.faultEvent fault).attributes.take limit = (SpanAction.faultEvent fault).attributes := by
    apply List.take_of_length_le
    unfold SpanAction.faultEvent
    split <;> simp [limit]
  have recorded : span.acted [.recordError fault] =
      { span with
        attributes := span.attributes ++ [("error", .flag true)], status := .error fault.message
        events := [SpanAction.faultEvent fault] } := by
    simp only [acted, List.foldl_cons, List.foldl_nil, SpanAction.apply, span.add_attribute_room _ untold.room, setStatus,
      untold.status, SpanStatus.below, if_true, addEvent, untold.events, List.length_nil, List.nil_append, short]
    rfl
  rw [recorded]
  exact ⟨codes, errors, fault_event_story _ fault, rfl⟩

theorem acted_response (response : Response) :
    span.acted [.tag ("http.status_code", .int response.status.code)] =
      { span with attributes := span.attributes ++ [("http.status_code", .int response.status.code)] } :=
  span.add_attribute_room _ untold.room

theorem tells_server (server : span.kind = .server) (signal : Signal) : (span.acted signal.serverActions).Tells signal := by
  cases signal with
  | success response =>
      have tagged := span.acted_response untold response
      rw [Signal.serverActions, acted_append, ServerTags.onResponse, tagged, ServerBoundary.statusActions]
      cases failed : response.status.isServerError with
      | true =>
          have range : 500 ≤ response.status.code ∧ response.status.code ≤ 599 := by
            simp only [Status.isServerError, Bool.and_eq_true, decide_eq_true_eq] at failed
            omega
          simp only [if_true, acted, List.foldl_cons, List.foldl_nil, SpanAction.apply, setStatus, untold.status,
            SpanStatus.below]
          exact span.tells_response untold response _ (by simp only [Signal.status, server, range, and_self, if_true])
      | false =>
          have range : ¬(500 ≤ response.status.code ∧ response.status.code ≤ 599) := by
            simp only [Status.isServerError, Bool.and_eq_false_iff, decide_eq_false_iff_not] at failed
            omega
          simp only [Bool.false_eq_true, if_false, acted, List.foldl_nil]
          exact span.tells_response untold response _ (by simp only [Signal.status, untold.status, range, and_false, if_false])
  | failure fault => exact span.tells_fault untold fault
  | cancelled =>
      obtain ⟨codes, errors⟩ := span.untold_filters untold
      refine ⟨codes, errors, ?_, untold.status⟩
      simp [Signal.serverActions, acted, Signal.events, server, untold.events]

theorem tells_client (client : span.kind = .client) (signal : Signal) : (span.acted signal.clientActions).Tells signal := by
  cases signal with
  | success response =>
      rw [Signal.clientActions, span.acted_response untold response]
      exact span.tells_response untold response _ (by simp [Signal.status, untold.status, client])
  | failure fault => exact span.tells_fault untold fault
  | cancelled =>
      obtain ⟨codes, errors⟩ := span.untold_filters untold
      have noted : span.acted (Signal.clientActions .cancelled) =
          { span with events := [⟨"cancelled", [("event", .text "cancelled")]⟩] } := by
        simp [Signal.clientActions, acted, SpanAction.apply, addEvent, untold.events, limit]
      rw [noted]
      refine ⟨codes, errors, ?_, untold.status⟩
      simp [Signal.events, client]

theorem untold_server (component : String) (request : Request) (room : span.attributes.length + 4 < limit) :
    (span.acted (ServerTags.onRequest component request)).Untold := by
  rw [ServerTags.onRequest, acted, List.foldl_cons, List.foldl_nil, SpanAction.apply]
  exact span.untold_tags _ untold (by simp [Neutral]) room

theorem untold_client (component : String) (request : Request) (room : span.attributes.length + 5 < limit) :
    (span.acted (ClientTags.onRequest component request)).Untold := by
  have peers : ∃ tags : List Attribute, tags.length ≤ 2 ∧ (∀ tag ∈ tags, Neutral tag) ∧
      ClientTags.peerActions request = tags.map .tag := by
    unfold ClientTags.peerActions
    split
    · exact ⟨[], by simp⟩
    · rename_i host port? found
      cases ClientTags.peerPort? request.uri port? with
      | none => exact ⟨[("peer.hostname", .text host)], by simp [Neutral]⟩
      | some port => exact ⟨[("peer.hostname", .text host), ("peer.port", .int port)], by simp [Neutral]⟩
  obtain ⟨tags, few, neutral, same⟩ := peers
  let own : List Attribute :=
    [("component", .text component), ("http.method", .text request.method),
      ("http.url", .text (Target.absoluteUrl request.uri request.headers))]
  have flat : span.acted (ClientTags.onRequest component request) = (own ++ tags).foldl addAttribute span := by
    rw [ClientTags.onRequest, same, List.foldl_append]
    exact List.foldl_map
  have ours : ∀ tag ∈ own, Neutral tag := by simp [own, Neutral]
  rw [flat]
  exact span.untold_tags _ untold (List.forall_mem_append.mpr ⟨ours, neutral⟩) (by simp [own]; omega)

end Untold

end Span

namespace Telemetry

@[simp] theorem ended_attach (t : Telemetry) (context : Context) : endedSpans (t.attach context) = endedSpans t := rfl

theorem ended_record (t : Telemetry) (entry : Entry) :
    endedSpans (t.record entry) = endedSpans t ++ entry.exported?.toList := by
  cases kept : entry.exported? <;> simp [endedSpans, record, kept]

@[simp] theorem ended_log (t : Telemetry) (level : LogLevel) (message : String) (fields : List (String × String)) :
    endedSpans (t.log level message fields) = endedSpans t := by
  simp [endedSpans, Entry.exported?]

theorem span_alter_other (t : Telemetry) (altered span : SpanContext) (change : Span → Span)
    (different : altered.span ≠ span.span) : (t.alter altered change).span? span = t.span? span := by
  unfold alter
  split
  · rfl
  · rename_i own
    simp only [Bool.or_eq_true, decide_eq_true_eq, not_or] at own
    unfold span?
    split
    · rfl
    · rename_i here
      simp only [Bool.or_eq_true, decide_eq_true_eq, not_or] at here
      exact List.getElem?_modify_ne change t.spans (by omega)

def Awaits (t : Telemetry) (span : SpanContext) (kind : SpanKind) : Prop :=
  ∃ record, t.span? span = some record ∧ record.context = span ∧ record.kind = kind ∧ record.Untold

-- The span is not that of a local span which is being entered.
def Outside (t : Telemetry) (span : SpanContext) : Prop := ∀ inside ∈ t.entered, inside.span ≠ span.span

def Exports (before after : Telemetry) (span : SpanContext) (kind : SpanKind) (signal : Signal) : Prop :=
  ∃ told : Span, told.context = span ∧ told.kind = kind ∧ told.Tells signal ∧
    endedSpans after = endedSpans before ++ if span.sampled then [told] else []

structure Acted (before after : Telemetry) (span : SpanContext) (actions : List SpanAction) : Prop where
  record : ∀ record, before.span? span = some record →
    after.span? span = some (if record.isRecording then record.acted actions else record)
  ended : endedSpans after = endedSpans before

section Actions

variable {t middle after : Telemetry} {span : SpanContext} {actions later : List SpanAction}

theorem acted_apart (same : after.span? span = t.span? span) (ended : endedSpans after = endedSpans t) :
    t.Acted after span [] := by
  refine ⟨?_, ended⟩
  intro record known
  rw [same, known]
  simp [Span.acted]

theorem acted_trans (early : t.Acted middle span actions) (late : middle.Acted after span later) :
    t.Acted after span (actions ++ later) := by
  refine ⟨?_, late.ended.trans early.ended⟩
  intro record known
  have once := early.record record known
  have twice := late.record _ once
  cases recording : record.isRecording with
  | true =>
      have still := record.recording_acted actions
      rw [recording] at still
      simpa only [recording, still, if_true, Span.acted_append] using twice
  | false => simpa only [recording, Bool.false_eq_true, if_false] using twice

theorem acted_update (t : Telemetry) (span : SpanContext) (action : SpanAction) :
    t.Acted (t.update span fun record => action.apply record) span [action] :=
  ⟨fun record known => t.span_alter_self span record _ known, by simp [endedSpans, update]⟩

theorem acted_act (t : Telemetry) (span : SpanContext) (actions : List SpanAction) :
    t.Acted (t.act span actions) span actions := by
  induction actions generalizing t with
  | nil => exact acted_apart rfl rfl
  | cons action rest ih => exact acted_trans (t.acted_update span action) (ih _)

theorem acted_invoke (t : Telemetry) (span : SpanContext) (decorator : Decorator) (hook : Hook)
    (reacts : decorator.react hook = .act actions) :
    t.Acted ((DecoratorChain.mk [decorator]).invoke hook (some span) t) span actions := by
  have noted : t.Acted ((t.record (.round hook (some span))).record
      (.called decorator.name decorator.observed hook (some ⟨span, t.current, t.isRecording span⟩))) span [] :=
    acted_apart rfl (by simp [ended_record, Entry.exported?])
  have done := acted_trans noted (acted_act _ span actions)
  simp only [DecoratorChain.invoke, List.foldl_cons, List.foldl_nil, DecoratorChain.runOne, reacts]
  exact done

theorem acted_log (t : Telemetry) (span : SpanContext) (level : LogLevel) (message : String) (fields : List (String × String))
    (outside : t.Outside span) : t.Acted (t.log level message fields) span [] := by
  refine acted_apart ?_ (t.ended_log level message fields)
  cases nested : t.entered with
  | nil => simp only [log, Telemetry.record, nested, span?]
  | cons inside rest =>
      have different := outside inside (by rw [nested]; exact List.mem_cons_self)
      have other : ∀ (t : Telemetry) change, (t.update inside change).span? span = t.span? span :=
        fun t change => t.span_alter_other inside span _ different
      simp only [log, Telemetry.record, nested]
      split <;> simp only [other] <;> rfl

end Actions

theorem ended_finish (t : Telemetry) (span : SpanContext) (record : Span) (known : t.span? span = some record)
    (unfinished : record.finished = false) (running : record.ended = false) :
    endedSpans (t.finish span).2 =
      endedSpans t ++ if record.context.sampled then [{ record with finished := true, ended := true }] else [] := by
  have first : t.isFinished span = false := by simp [isFinished, known, unfinished]
  have marked := (t.record (.finishing span true)).span_alter_self span record
    (fun found => { found with finished := true }) known
  simp only [finish, first, Bool.false_eq_true, if_false, endSpan, marked, running, ended_record]
  cases sampled : record.context.sampled <;> simp [Entry.exported?, sampled, endedSpans, Telemetry.record]

theorem ended_finished (t : Telemetry) (span : SpanContext) (stopped : t.isFinished span = true) :
    endedSpans (t.finish span).2 = endedSpans t := by
  simp [finish, stopped, ended_record, Entry.exported?]

theorem finish_exports (t after : Telemetry) (span : SpanContext) (kind : SpanKind) (signal : Signal)
    (actions : List SpanAction) (awaits : t.Awaits span kind) (acted : t.Acted after span actions)
    (tells : ∀ record : Span, record.Untold → record.kind = kind → (record.acted actions).Tells signal) :
    t.Exports (after.finish span).2 span kind signal := by
  obtain ⟨record, known, own, side, untold⟩ := awaits
  have told := tells record untold side
  have extends_ := record.extends_acted actions
  refine ⟨{ record.acted actions with finished := true, ended := true }, extends_.context.trans own,
    extends_.kind.trans side, ⟨told.codes, told.errors, told.events, told.status⟩, ?_⟩
  have changed := acted.record record known
  have standing := record.standing_acted actions
  simp only [Span.standing, Standing.mk.injEq, untold.finished, untold.running] at standing
  cases sampled : span.sampled with
  | true =>
      have recording : record.isRecording = true := by simp [Span.isRecording, own, sampled, untold.running]
      rw [recording, if_pos rfl] at changed
      have exported : (record.acted actions).context.sampled = true := by rw [standing.1, own, sampled]
      rw [after.ended_finish span _ changed standing.2.1 standing.2.2, acted.ended, exported]
  | false =>
      have recording : record.isRecording = false := by simp [Span.isRecording, own, sampled]
      rw [recording, if_neg Bool.false_ne_true] at changed
      rw [after.ended_finish span _ changed untold.finished untold.running, acted.ended, own, sampled]
      rfl

theorem awaits_running (t : Telemetry) (span : SpanContext) (kind : SpanKind) (awaits : t.Awaits span kind) :
    t.ledger.Open span (t.history.count (.ended span)) := by
  obtain ⟨record, known, own, _, untold⟩ := awaits
  refine ⟨false, ?_, rfl⟩
  rw [standing_span, known, ← own]
  simp [Span.standing, untold.finished, untold.running]

end Telemetry

theorem started_awaits (t after : Telemetry) (name : String) (kind : SpanKind) (parent : Context) (actions : List SpanAction)
    (acted : (t.startSpan name kind parent [("span.kind", .text kind.tag)] []).2.Acted after (t.nextContext parent) actions)
    (keeps : ∀ record : Span, record.Untold → record.attributes.length = 1 → (record.acted actions).Untold) :
    after.Awaits (t.nextContext parent) kind := by
  obtain ⟨record, started, own, side, untold, length⟩ : ∃ record : Span,
      (t.startSpan name kind parent [("span.kind", .text kind.tag)] []).2.span? (t.nextContext parent) = some record ∧
        record.context = t.nextContext parent ∧ record.kind = kind ∧ record.Untold ∧ record.attributes.length = 1 :=
    ⟨_, t.span_start name kind parent _ [], rfl, rfl, ⟨by simp [Span.limit], by simp [Span.Neutral], rfl, rfl, rfl, rfl⟩, rfl⟩
  have changed := acted.record record started
  have extends_ := record.extends_acted actions
  split at changed
  · exact ⟨_, changed, extends_.context.trans own, extends_.kind.trans side, keeps record untold length⟩
  · exact ⟨record, changed, own, side, untold⟩

structure Terminal.Reports (terminal : Terminal) (span : SpanContext) (kind : SpanKind) : Prop where
  fired : ∀ between : Telemetry, between.Awaits span kind → between.Outside span →
    ∀ signal, between.Exports (terminal.fire signal between) span kind signal
  concluded : ∀ between : Telemetry, between.Awaits span kind → between.Outside span →
    ∀ outcome?, between.Exports ((TerminalGuard.new (.of span) terminal).conclude outcome? between) span kind (.settled outcome?)
  driven : ∀ (first : Bool) (task : Task) (meanwhile : Nat → Telemetry → Telemetry) (polls : Nat) (t : Telemetry),
    let bare := (Task.scoped (.of span) task).drive meanwhile (polls + 1) t
    let run := (Task.guarded (.new (.of span) terminal) first task).drive meanwhile (polls + 1) t
    bare.2.Awaits span kind → bare.2.Outside span →
      run.1 = bare.1 ∧ bare.2.Exports run.2 span kind (.settled bare.1)

theorem fired_reports (terminal : Terminal) (span : SpanContext) (kind : SpanKind)
    (fired : ∀ between : Telemetry, between.Awaits span kind → between.Outside span →
      ∀ signal, between.Exports (terminal.fire signal between) span kind signal) : terminal.Reports span kind := by
  have concluded : ∀ between : Telemetry, between.Awaits span kind → between.Outside span → ∀ outcome?,
      between.Exports ((TerminalGuard.new (.of span) terminal).conclude outcome? between) span kind (.settled outcome?) := by
    intro between awaits outside outcome?
    obtain ⟨told, own, side, tells, exported⟩ := fired (between.attach (.of span)) awaits outside (.settled outcome?)
    refine ⟨told, own, side, tells, ?_⟩
    rw [Telemetry.ended_attach] at exported
    rw [← exported]
    cases outcome? with
    | some outcome => rfl
    | none => exact Telemetry.ended_log _ _ _ _
  refine ⟨fired, concluded, ?_⟩
  intro first task meanwhile polls t bare run awaits outside
  have polled : run = (bare.1, (TerminalGuard.new (.of span) terminal).conclude bare.1 bare.2) := by
    have alone := Task.drive_guarded_alone meanwhile (polls + 1) (.new (.of span) terminal) task t
    cases first with
    | true => exact (Task.drive_guard_first meanwhile polls _ task t).trans alone
    | false => exact alone
  rw [polled]
  exact ⟨rfl, concluded bare.2 awaits outside bare.1⟩

theorem ActiveCall.ended_drop (call : ActiveCall) (t : Telemetry) (stopped : t.isFinished call.span = true) :
    endedSpans (call.drop t) = endedSpans t := by
  have same := t.ended_finished call.span stopped
  have again := (t.finish_finished call.span stopped).1
  unfold ActiveCall.drop
  split
  · rename_i later finished
    rw [finished] at again
    contradiction
  · rename_i later finished
    rw [finished] at same
    exact same

namespace ServerBoundary

variable (boundary : ServerBoundary) (component : String) (tagged : boundary.decorators = ⟨[ServerTags.decorator component]⟩)

include tagged

theorem enter_awaits (request : Request) (t : Telemetry) :
    (boundary.openSpan request t).2.2.Awaits (boundary.serverSpan request t) .server := by
  let started :=
    (t.startSpan request.method .server (boundary.parent request t) [("span.kind", .text SpanKind.server.tag)] []).2
  let span := boundary.serverSpan request t
  have decorated := Telemetry.acted_invoke (started.attach (.of span)) span (ServerTags.decorator component)
    (.request (request.withServer span)) rfl
  rw [← tagged] at decorated
  refine started_awaits t _ request.method .server (boundary.parent request t) _ ⟨decorated.record, decorated.ended⟩ ?_
  intro record untold length
  exact record.untold_server untold component _ (by rw [length]; decide)

theorem close_exports (later : Request) (hook : Hook) (first rest : List SpanAction) (span : SpanContext) (t : Telemetry)
    (signal : Signal) (marked : later.marks.wrapper? = some span) (awaits : t.Awaits span .server)
    (reacts : (ServerTags.decorator component).react hook = .act first) (same : signal.serverActions = first ++ rest) :
    t.Exports (boundary.close later hook rest t) span .server signal := by
  have running := t.is_finished_open span _ (t.awaits_running span .server awaits)
  have decorated := Telemetry.acted_invoke (t.attach (.of span)) span (ServerTags.decorator component) hook reacts
  have acted := Telemetry.acted_trans decorated (Telemetry.acted_act _ span rest)
  rw [← tagged, ← same] at acted
  simp only [close, unfinished_running later t span marked running, Telemetry.within]
  exact (t.attach (.of span)).finish_exports _ span .server signal _ awaits acted
    fun record untold server => record.tells_server untold server signal

theorem server_reports (later : Request) (span : SpanContext) (marked : later.marks.wrapper? = some span)
    (resumed : later.marks.asyncPending = false) : (Service.serverTerminal boundary later).Reports span .server := by
  apply fired_reports
  intro between awaits outside signal
  cases signal with
  | success response =>
      simp only [Service.serverTerminal, complete, resumed, Bool.false_eq_true, if_false]
      exact boundary.close_exports component tagged later _ _ _ span between _ marked awaits rfl rfl
  | failure fault => exact boundary.close_exports component tagged later _ _ [] span between _ marked awaits rfl rfl
  | cancelled =>
      have running := between.is_finished_open span _ (between.awaits_running span .server awaits)
      simp only [Service.serverTerminal, cancel, unfinished_running later between span marked running]
      exact between.finish_exports _ span .server .cancelled [] awaits (Telemetry.acted_log _ span _ _ _ outside)
        fun record untold server => record.tells_server untold server .cancelled

end ServerBoundary

namespace ClientInterceptor

variable (interceptor : ClientInterceptor) (component : String)
  (tagged : interceptor.decorators = ⟨[ClientTags.decorator component]⟩)

include tagged

theorem start_awaits (request : Request) (t : Telemetry) (enabled : interceptor.enabled = true) (call : ActiveCall)
    (opened : Telemetry) (starts : interceptor.Starts request t call opened) : opened.Awaits call.span .client := by
  have begun := starts.started
  simp only [start, enabled, Bool.not_true, Bool.false_eq_true, if_false, Prod.mk.injEq] at begun
  obtain ⟨sent, _, rfl⟩ := begun
  let started := (t.startSpan request.method .client t.current [("span.kind", .text SpanKind.client.tag)] []).2
  have decorated := (started.attach (.of (t.nextContext t.current))).acted_invoke (t.nextContext t.current)
    (ClientTags.decorator component) (.request call.request) rfl
  rw [← tagged, ← sent] at decorated
  rw [starts.span]
  refine started_awaits t _ request.method .client t.current _ ⟨decorated.record, decorated.ended⟩ ?_
  intro record untold length
  exact record.untold_client untold component _ (by rw [length]; decide)

theorem client_reports (call : ActiveCall) (decorators : call.decorators = interceptor.decorators) :
    call.terminal.Reports call.span .client := by
  apply fired_reports
  intro between awaits _ signal
  have reacts : (ClientTags.decorator component).react (call.hook signal) = .act signal.clientActions := by
    cases signal <;> rfl
  have acted := between.acted_invoke call.span (ClientTags.decorator component) (call.hook signal) reacts
  rw [← tagged, ← decorators] at acted
  obtain ⟨told, own, side, tells, exported⟩ := between.finish_exports _ call.span .client signal _ awaits acted
    fun record untold client => record.tells_client untold client signal
  refine ⟨told, own, side, tells, ?_⟩
  have decorated : (call.decorators.invoke (call.hook signal) (some call.span) between).ledger.Open call.span
      (between.history.count (.ended call.span)) := by
    rw [DecoratorChain.ledger_invoke]
    exact call.decorators.open_milestones _ _ _ call.span _ (between.awaits_running call.span .client awaits)
  rw [← exported]
  exact call.ended_drop _ (Telemetry.finish_finishes _ call.span _ decorated)

end ClientInterceptor

-- What `Reports` says holds from the start of the span on, for as long as nobody
-- but the decorator puts tags of an outcome, events or a status on it.
theorem ended_span_tells_outcome :
    (∀ (boundary : ServerBoundary) (component : String) (request : Request) (t : Telemetry),
      boundary.decorators = ⟨[ServerTags.decorator component]⟩ → request.marks.wrapper? = none →
        request.marks.untraced = false → boundary.traces request = true →
          ∃ span opened, boundary.enter request t = (.started span, request.withServer span, opened) ∧
            opened.Awaits span .server ∧
            ∀ later : Request, later.marks.wrapper? = some span → later.marks.asyncPending = false →
              (Service.serverTerminal boundary later).Reports span .server) ∧
    ∀ (interceptor : ClientInterceptor) (component : String) (request : Request) (t : Telemetry),
      interceptor.decorators = ⟨[ClientTags.decorator component]⟩ → interceptor.enabled = true →
        ∃ call opened, interceptor.Starts request t call opened ∧ opened.Awaits call.span .client ∧
          call.terminal.Reports call.span .client := by
  constructor
  · intro boundary component request t tagged unmarked undecided traced
    refine ⟨_, _, boundary.enter_traced request t unmarked undecided traced,
      boundary.enter_awaits component tagged request t, ?_⟩
    exact fun later marked resumed => boundary.server_reports component tagged later _ marked resumed
  · intro interceptor component request t tagged enabled
    obtain ⟨call, opened, starts⟩ := interceptor.start_starts request t enabled
    exact ⟨call, opened, starts, interceptor.start_awaits component tagged request t enabled call opened starts,
      interceptor.client_reports component tagged call starts.decorators⟩

theorem ended_span_tells_outcome_orders :
    (∃ span later opened, (ServerBoundary.standard ⟨some .silent⟩).enter order (.start .silent false) =
        (.started span, later, opened) ∧
      ∀ signal,
        opened.Exports ((Service.serverTerminal (.standard ⟨some .silent⟩) later).fire signal opened) span .server signal) ∧
    ∃ call opened, (ClientInterceptor.standard ⟨some .silent⟩).Starts order (.start .silent false) call opened ∧
      opened.Exports (call.terminate (.failure timeout) opened) call.span .client (.failure timeout) := by
  obtain ⟨server, client⟩ := ended_span_tells_outcome
  obtain ⟨span, opened, entered, awaits, reports⟩ :=
    server (.standard ⟨some .silent⟩) "http-server" order (.start .silent false) rfl rfl rfl rfl
  obtain ⟨call, begun, starts, waits, tells⟩ :=
    client (.standard ⟨some .silent⟩) "http-client" order (.start .silent false) rfl rfl
  have outside : opened.Outside span := by
    obtain rfl : ((ServerBoundary.standard ⟨some .silent⟩).enter order (.start .silent false)).2.2 = opened := by rw [entered]
    exact fun inside absent => absurd absent List.not_mem_nil
  have apart : begun.Outside call.span := by
    obtain rfl : ((ClientInterceptor.standard ⟨some .silent⟩).start order (.start .silent false)).2.2 = begun := by
      rw [starts.started]
    exact fun inside absent => absurd absent List.not_mem_nil
  refine ⟨⟨span, _, opened, entered, ?_⟩, call, begun, starts, tells.fired begun waits apart (.failure timeout)⟩
  exact (reports (order.withServer span) rfl rfl).fired opened awaits outside

end RequestSpans
