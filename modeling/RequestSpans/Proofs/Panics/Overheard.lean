import RequestSpans.Proofs.Comparison.Records

set_option autoImplicit false

namespace RequestSpans

namespace SpanEvent

def isFailure (event : SpanEvent) : Bool := event.name = "span decorator failed"

def remarks (events : List SpanEvent) : List SpanEvent := events.filter fun event => !event.isFailure

def clipped (event : SpanEvent) : SpanEvent := { event with attributes := event.attributes.take Span.limit }

-- The events of a span that keeps failures besides, and of one that does not.
-- Failures count for the limit, so remarks can be lost to them, but only from
-- the limit on.
structure Interspersed (loud quiet : List SpanEvent) : Prop where
  longer : quiet.length ≤ loud.length
  kept : remarks loud <+: remarks quiet
  complete : loud.length < Span.limit → remarks loud = remarks quiet

theorem interspersed_self (events : List SpanEvent) : Interspersed events events :=
  ⟨Nat.le_refl _, List.prefix_rfl, fun _ => rfl⟩

end SpanEvent

namespace SpanStatus

def raised (status level : SpanStatus) : SpanStatus := if status.below level then level else status

def Soured (loud quiet : SpanStatus) : Prop := loud = quiet ∨ loud = .error "" ∧ quiet = .unset

theorem not_lt_empty (text : String) : ¬ text < "" := List.not_lt_nil _

theorem empty_lt (text : String) (filled : text ≠ "") : "" < text := by
  change [] < text.toList
  cases letters : text.toList with
  | nil => exact absurd (by simpa using letters) filled
  | cons letter rest => exact List.nil_lt_cons _ _

theorem soured_both {loud quiet : SpanStatus} (level : SpanStatus) (same : loud.Soured quiet) :
    (loud.raised level).Soured (quiet.raised level) := by
  rcases same with rfl | ⟨rfl, rfl⟩
  · exact .inl rfl
  · cases level with
    | unset => exact .inr ⟨rfl, rfl⟩
    | ok => exact .inl rfl
    | error text =>
        by_cases empty : text = ""
        · subst empty
          exact .inl (by simp [raised, below])
        · exact .inl (by simp [raised, below, empty_lt text empty])

theorem soured_failure {loud quiet : SpanStatus} (same : loud.Soured quiet) : (loud.raised (.error "")).Soured quiet := by
  rcases same with rfl | ⟨rfl, rfl⟩
  · cases loud with
    | unset => exact .inr ⟨rfl, rfl⟩
    | ok => exact .inl rfl
    | error text =>
        have lowest : decide (text < "") = false := decide_eq_false (not_lt_empty text)
        exact .inl (by simp only [raised, below, lowest]; rfl)
  · exact .inr ⟨by simp [raised, below], rfl⟩

end SpanStatus

namespace Span

def still (span : Span) : Span := { span with events := [], droppedEvents := 0, status := .unset }

def IsLocal (span : Span) : Prop := ∃ component rest, span.attributes = ("component", component) :: rest

structure Overhears (loud quiet : Span) : Prop where
  isLocal : loud.IsLocal
  still : loud.still = quiet.still
  events : SpanEvent.Interspersed loud.events quiet.events
  status : loud.status.Soured quiet.status

def Muted (bridged : Bool) (loud quiet : Span) : Prop := loud = quiet ∨ bridged = true ∧ loud.Overhears quiet

section Fields

variable (span : Span)

theorem events_event (event : SpanEvent) : (span.addEvent event).events =
    if span.events.length < limit then span.events ++ [event.clipped] else span.events := by
  unfold addEvent
  split <;> rfl

theorem status_event (event : SpanEvent) : (span.addEvent event).status = span.status := by
  unfold addEvent
  split <;> rfl

theorem still_event (event : SpanEvent) : (span.addEvent event).still = span.still := by
  unfold addEvent
  split <;> rfl

theorem status_status (level : SpanStatus) : (span.setStatus level).status = span.status.raised level := by
  unfold setStatus SpanStatus.raised
  split <;> rfl

theorem events_status (level : SpanStatus) : (span.setStatus level).events = span.events := by
  unfold setStatus
  split <;> rfl

theorem still_status (level : SpanStatus) : (span.setStatus level).still = span.still := by
  unfold setStatus
  split <;> rfl

theorem still_attribute (tag : Attribute) : (span.addAttribute tag).still = span.still.addAttribute tag := by
  unfold addAttribute still
  dsimp only
  split <;> rfl

theorem events_attribute (tag : Attribute) : (span.addAttribute tag).events = span.events := by
  unfold addAttribute
  split <;> rfl

theorem status_attribute (tag : Attribute) : (span.addAttribute tag).status = span.status := by
  unfold addAttribute
  split <;> rfl

end Fields

section Steps

variable {bridged : Bool} {loud quiet later : Span}

theorem local_extends (isLocal : loud.IsLocal) (extends_ : loud.Extends later) : later.IsLocal := by
  obtain ⟨component, rest, headed⟩ := isLocal
  obtain ⟨more, longer⟩ := extends_.attributes
  exact ⟨component, rest ++ more, by rw [← longer, headed]; rfl⟩

theorem overhears_self (isLocal : loud.IsLocal) : loud.Overhears loud :=
  ⟨isLocal, rfl, SpanEvent.interspersed_self _, .inl rfl⟩

theorem overhears_event (event : SpanEvent) (same : loud.Overhears quiet) :
    (loud.addEvent event).Overhears (quiet.addEvent event) := by
  obtain ⟨isLocal, still, ⟨longer, kept, complete⟩, status⟩ := same
  refine ⟨local_extends isLocal (extends_event loud event), ?_, ?_, ?_⟩
  · rw [still_event, still_event, still]
  · rw [events_event, events_event]
    by_cases room : loud.events.length < limit
    · have room' : quiet.events.length < limit := Nat.lt_of_le_of_lt longer room
      have again : SpanEvent.remarks (loud.events ++ [event.clipped]) = SpanEvent.remarks (quiet.events ++ [event.clipped]) := by
        rw [SpanEvent.remarks, SpanEvent.remarks, List.filter_append, List.filter_append]
        exact congrArg (· ++ _) (complete room)
      simp only [room, room', if_true]
      exact ⟨by simpa using longer, again ▸ List.prefix_rfl, fun _ => again⟩
    · simp only [room, if_false]
      split
      · refine ⟨by simp only [List.length_append, List.length_singleton]; omega, kept.trans ?_, fun more => absurd more room⟩
        rw [SpanEvent.remarks, SpanEvent.remarks, List.filter_append]
        exact List.prefix_append _ _
      · exact ⟨longer, kept, fun more => absurd more room⟩
  · rw [status_event, status_event]
    exact status

theorem overhears_status (level : SpanStatus) (same : loud.Overhears quiet) :
    (loud.setStatus level).Overhears (quiet.setStatus level) := by
  obtain ⟨isLocal, still, events, status⟩ := same
  refine ⟨local_extends isLocal (extends_status loud level), ?_, ?_, ?_⟩
  · rw [still_status, still_status, still]
  · rw [events_status, events_status]
    exact events
  · rw [status_status, status_status]
    exact SpanStatus.soured_both level status

theorem overhears_attribute (tag : Attribute) (same : loud.Overhears quiet) :
    (loud.addAttribute tag).Overhears (quiet.addAttribute tag) := by
  obtain ⟨isLocal, still, events, status⟩ := same
  refine ⟨local_extends isLocal (extends_attribute loud tag), ?_, ?_, ?_⟩
  · rw [still_attribute, still_attribute, still]
  · rw [events_attribute, events_attribute]
    exact events
  · rw [status_attribute, status_attribute]
    exact status

theorem overhears_action (action : SpanAction) (same : loud.Overhears quiet) :
    (action.apply loud).Overhears (action.apply quiet) := by
  cases action with
  | tag pair => exact overhears_attribute pair same
  | tags pairs =>
      change (pairs.foldl addAttribute loud).Overhears (pairs.foldl addAttribute quiet)
      induction pairs generalizing loud quiet with
      | nil => exact same
      | cons pair rest ih => exact ih (overhears_attribute pair same)
  | event entry => exact overhears_event entry same
  | status level => exact overhears_status level same
  | rename name =>
      obtain ⟨isLocal, still, events, status⟩ := same
      refine ⟨isLocal, ?_, events, status⟩
      exact congrArg (fun span : Span => span.rename name) still
  | recordError fault =>
      exact overhears_event _ (overhears_status _ (overhears_attribute ("error", .flag true) same))

theorem muted_action (action : SpanAction) (same : loud.Muted bridged quiet) :
    (action.apply loud).Muted bridged (action.apply quiet) :=
  same.imp (congrArg fun span => action.apply span) fun ⟨linked, overhears⟩ => ⟨linked, overhears_action action overhears⟩

theorem muted_local (isLocal : loud.IsLocal) (same : loud.Muted bridged quiet) :
    loud.Overhears quiet := by
  rcases same with rfl | ⟨_, overhears⟩
  · exact overhears_self isLocal
  · exact overhears

theorem muted_failure_event (event : SpanEvent) (failure : event.isFailure = true) (linked : bridged = true)
    (isLocal : loud.IsLocal) (same : loud.Muted bridged quiet) : (loud.addEvent event).Muted bridged quiet := by
  obtain ⟨_, still, ⟨longer, kept, complete⟩, status⟩ := muted_local isLocal same
  refine .inr ⟨linked, local_extends isLocal (extends_event loud event), ?_, ?_, ?_⟩
  · rw [still_event, still]
  · have again : SpanEvent.remarks (loud.events ++ [event.clipped]) = SpanEvent.remarks loud.events := by
      have clipped : event.clipped.isFailure = true := failure
      simp [SpanEvent.remarks, List.filter_append, clipped]
    rw [events_event]
    by_cases room : loud.events.length < limit
    · simp only [room, if_true]
      refine ⟨by simp only [List.length_append, List.length_singleton]; omega, ?_, fun _ => again.trans (complete room)⟩
      rw [again]
      exact kept
    · simp only [room, if_false]
      exact ⟨longer, kept, complete⟩
  · rw [status_event]
    exact status

theorem muted_failure_status (linked : bridged = true) (isLocal : loud.IsLocal) (same : loud.Muted bridged quiet) :
    (loud.setStatus (.error "")).Muted bridged quiet := by
  obtain ⟨_, still, events, status⟩ := muted_local isLocal same
  refine .inr ⟨linked, local_extends isLocal (extends_status loud _), ?_, ?_, ?_⟩
  · rw [still_status, still]
  · rw [events_status]
    exact events
  · rw [status_status]
    exact SpanStatus.soured_failure status

theorem muted_context (same : loud.Muted bridged quiet) : loud.context = quiet.context := by
  rcases same with rfl | ⟨_, overhears⟩
  · rfl
  · have still := congrArg Span.context overhears.still
    exact still

theorem muted_finished (same : loud.Muted bridged quiet) : loud.finished = quiet.finished := by
  rcases same with rfl | ⟨_, overhears⟩
  · rfl
  · have still := congrArg Span.finished overhears.still
    exact still

theorem muted_ended (same : loud.Muted bridged quiet) : loud.ended = quiet.ended := by
  rcases same with rfl | ⟨_, overhears⟩
  · rfl
  · have still := congrArg Span.ended overhears.still
    exact still

theorem muted_recording (same : loud.Muted bridged quiet) : loud.isRecording = quiet.isRecording := by
  rw [isRecording, isRecording, muted_context same, muted_ended same]

theorem muted_stopped (same : loud.Muted bridged quiet) : loud.stopped.Muted bridged quiet.stopped := by
  rcases same with rfl | ⟨linked, isLocal, still, events, status⟩
  · exact .inl rfl
  · exact .inr ⟨linked, isLocal, congrArg Span.stopped still, events, status⟩

theorem muted_mark (same : loud.Muted bridged quiet) :
    ({ loud with finished := true } : Span).Muted bridged { quiet with finished := true } := by
  rcases same with rfl | ⟨linked, isLocal, still, events, status⟩
  · exact .inl rfl
  · exact .inr ⟨linked, isLocal, congrArg (fun span : Span => { span with finished := true }) still, events, status⟩

end Steps

end Span

end RequestSpans
