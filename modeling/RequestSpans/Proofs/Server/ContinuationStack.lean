import RequestSpans.Proofs.Comparison.Records
import RequestSpans.Proofs.Server.Continuation
import RequestSpans.Proofs.Server.Stack

set_option autoImplicit false

namespace RequestSpans

theorem Telemetry.sampler_bare {t u : Telemetry} (same : t.bare = u.bare) : t.sampler = u.sampler := by
  have sampler := congrArg Telemetry.sampler same
  exact sampler

namespace HandlerCoordinator

variable (coordinator : HandlerCoordinator) (request : Request) (handler : Handler) (t : Telemetry)

theorem resume_sampler (server : SpanContext) : (coordinator.resume server request handler t).2.2.sampler = t.sampler := by
  simp only [resume]
  split
  · rfl
  · exact (Telemetry.sampler_bare (Telemetry.bare_log _ _ _ _)).trans (Telemetry.sampler_bare (Telemetry.bare_alter _ _ _))

theorem activate_sampler : (coordinator.activate request handler t).2.2.sampler = t.sampler := by
  unfold activate
  split
  · rfl
  split
  · unfold reportMissing
    split
    · rfl
    · have logged := Telemetry.bare_log { t with reported := coordinator.name :: t.reported }
      exact (Telemetry.sampler_bare (logged _ _ _)).trans rfl
  split
  · rfl
  · exact coordinator.resume_sampler request handler t _

theorem pre_handle_sampler : (coordinator.preHandle request handler t).2.sampler = t.sampler := by
  have activated := coordinator.activate_sampler request handler t
  unfold preHandle
  split
  · exact Telemetry.sampler_bare (Telemetry.bare_log _ _ _ _)
  split <;> rename_i reached <;> rw [reached] at activated
  · exact activated
  · have decorated := coordinator.decorators.bare_invoke
    exact (Telemetry.sampler_bare (decorated _ _ (Telemetry.attach _ _))).trans activated

end HandlerCoordinator

namespace Stack

-- A handler layer with the continuation span it opens and the request it hands
-- on. The layer keeps a copy of that request to complete on.
structure Level where
  coordinator : HandlerCoordinator
  handler : Handler
  span : SpanContext
  request : Request

namespace Level

def context (level : Level) : Context := .of level.span

def guard (level : Level) : TerminalGuard :=
  .new level.context (Service.handlerTerminal level.coordinator level.handler level.request)

def preHandleRound (level : Level) : List Milestone :=
  level.coordinator.decorators.milestones (.preHandle level.request level.handler) (some level.span)

def opening (server : SpanContext) (level : Level) : List Milestone :=
  .started level.span (some server) [server] :: level.preHandleRound

def afterCompletionRound (signal : Signal) (level : Level) : List Milestone :=
  level.coordinator.decorators.milestones
    (.afterCompletion level.request level.handler signal.response? signal.fault?) (some level.span)

def closing (signal : Signal) (level : Level) : List Milestone :=
  level.afterCompletionRound signal ++ [.finishing level.span true, .ended level.span]

structure Keeps (server : SpanContext) (level : Level) : Prop where
  undecided : level.request.marks.untraced = false
  marked : level.request.marks.wrapper? = some server
  held : level.request.marks.continuation? level.handler = some level.span
  active : level.request.marks.active? = some level.context

end Level

-- The levels of a stack, the outermost first. `started` spans were started
-- before; each level starts the next one, and the levels below it get the
-- request with its mark.
def levels (sampler : Sampler) (server : SpanContext) : List (HandlerCoordinator × Handler) → Request → Nat → List Level
  | [], _, _ => []
  | (coordinator, handler) :: rest, request, started =>
      let sampling := sampler (some server) server.trace
      let span := ⟨server.trace, started + 1, sampling.sampled, false, sampling.state⟩
      ⟨coordinator, handler, span, request.continueOn handler span⟩ ::
        levels sampler server rest (request.continueOn handler span) (started + 1)

def opened (server : SpanContext) (levels : List Level) (l : Ledger) : Ledger :=
  ⟨l.standings ++ levels.map fun level => ⟨level.span, false, false⟩, l.history ++ levels.flatMap (Level.opening server)⟩

def concluded (signal : Signal) (levels : List Level) (l : Ledger) : Ledger :=
  levels.foldr (fun level inside => (inside.note (level.afterCompletionRound signal)).close level.span) l

structure Lapsed (server : SpanContext) (handlers : List Handler) (request : Request) (t : Telemetry) : Prop where
  undecided : request.marks.untraced = false
  resumed : request.marks.asyncPending = false
  marked : request.marks.wrapper? = some server
  finished : t.isFinished server = true
  idle : ∀ handler ∈ handlers, ∀ kept, request.marks.continuation? handler = some kept → t.isFinished kept = true

structure Left (server : SpanContext) (levels : List Level) (before after : Ledger) : Prop where
  finished : after.finished server = true
  running : ∀ level ∈ levels, after.standing? level.span = some ⟨level.span, false, false⟩
  unended : ∀ level ∈ levels, after.history.count (.ended level.span) = before.history.count (.ended level.span)

theorem levels_handlers (sampler : Sampler) (server : SpanContext) (layers : List (HandlerCoordinator × Handler)) (request : Request)
    (started : Nat) :
    (levels sampler server layers request started).map (fun level => (level.coordinator, level.handler)) = layers := by
  induction layers generalizing request started with
  | nil => rfl
  | cons layer rest ih => simp [levels, ih]

theorem levels_numbered (sampler : Sampler) (server : SpanContext) (layers : List (HandlerCoordinator × Handler)) (request : Request)
    (started : Nat) :
    (levels sampler server layers request started).map (·.span.span) = List.range' (started + 1) layers.length := by
  induction layers generalizing request started with
  | nil => rfl
  | cons layer rest ih => simp [levels, ih, List.range'_succ]

theorem levels_distinct (sampler : Sampler) (server : SpanContext) (layers : List (HandlerCoordinator × Handler)) (request : Request)
    (started : Nat) : ((levels sampler server layers request started).map (·.span.span)).Nodup := by
  rw [levels_numbered]
  exact List.nodup_range'

theorem spans_distinct (levels : List Level) (distinct : (levels.map (·.span.span)).Nodup) :
    (levels.map (·.span)).Nodup := by
  rw [List.Nodup, List.pairwise_map] at distinct ⊢
  exact distinct.imp fun different same => different (by rw [same])

theorem levels_keep (sampler : Sampler) (server : SpanContext) (layers : List (HandlerCoordinator × Handler)) (request : Request)
    (started : Nat) (undecided : request.marks.untraced = false) (marked : request.marks.wrapper? = some server) :
    ∀ level ∈ levels sampler server layers request started, level.Keeps server := by
  induction layers generalizing request started with
  | nil => simp [levels]
  | cons layer rest ih =>
      intro level member
      rcases List.mem_cons.mp member with rfl | below
      · exact ⟨undecided, marked, put_continuation_self _ _ _, rfl⟩
      · exact ih (request.continueOn _ _) _ undecided marked level below

theorem left_below (server : SpanContext) (level : Level) (rest : List Level) (before after : Ledger)
    (left : Left server (level :: rest) before after) : Left server rest before after :=
  ⟨left.finished, (List.forall_mem_cons.mp left.running).2, (List.forall_mem_cons.mp left.unended).2⟩

theorem opened_below (server : SpanContext) (level : Level) (rest : List Level) (l : Ledger) :
    opened server rest ((l.start level.span (some server) [server]).note level.preHandleRound) =
      opened server (level :: rest) l := by
  simp [opened, Ledger.start, Ledger.note, Level.opening]

theorem opened_old (server : SpanContext) (levels : List Level) (l : Ledger) (span : SpanContext) (standing : Standing)
    (known : l.standing? span = some standing) : (opened server levels l).standing? span = some standing := by
  induction levels generalizing l with
  | nil => simpa [opened] using known
  | cons level rest ih =>
      rw [← opened_below]
      exact ih _ (l.standing_start_old level.span span (some server) [server] standing known)

theorem opened_running (sampler : Sampler) (server : SpanContext) (layers : List (HandlerCoordinator × Handler)) (request : Request)
    (started : Nat) (l : Ledger) (count : l.standings.length = started) :
    ∀ level ∈ levels sampler server layers request started,
      (opened server (levels sampler server layers request started) l).standing? level.span = some ⟨level.span, false, false⟩ := by
  induction layers generalizing request started l with
  | nil => simp [levels]
  | cons layer rest ih =>
      intro level member
      rw [levels, ← opened_below]
      rcases List.mem_cons.mp member with rfl | below
      · exact opened_old server _ _ _ _ (l.standing_start_new _ (some server) [server] ⟨rfl, by rw [count]⟩)
      · exact ih _ _ _ (by simp [Ledger.start, Ledger.note, count]) level below

theorem opened_left (server : SpanContext) (layers : List (HandlerCoordinator × Handler)) (request : Request)
    (t : Telemetry) (stopped : t.isFinished server = true) :
    let levels := levels t.sampler server layers request t.spans.length
    Left server levels t.ledger (opened server levels t.ledger) := by
  intro levels
  refine ⟨?_, opened_running t.sampler server layers request _ t.ledger (by simp [Telemetry.ledger]), ?_⟩
  · rw [t.is_finished_ledger] at stopped
    cases known : t.ledger.standing? server with
    | none => simp [Ledger.finished, known] at stopped
    | some standing =>
        rw [Ledger.finished, opened_old server levels t.ledger server standing known, ← known]
        exact stopped
  · intro level _
    have silent : .ended level.span ∉ levels.flatMap (Level.opening server) :=
      rounds_ended levels _ level.span fun other => by
        simp [Level.opening, Level.preHandleRound, DecoratorChain.milestones_ended]
    rw [opened, List.count_append, List.count_eq_zero.mpr silent, Nat.add_zero]

theorem lapsed_below (server : SpanContext) (handler : Handler) (rest : List Handler) (request : Request)
    (span : SpanContext) (events : List Milestone) (t later : Telemetry)
    (lapsed : Lapsed server (handler :: rest) request t) (distinct : (handler :: rest).Nodup)
    (reached : later.ledger = (t.ledger.start span (some server) [server]).note events) :
    Lapsed server rest (request.continueOn handler span) later := by
  have still : ∀ other, t.isFinished other = true → later.isFinished other = true := by
    intro other stopped
    rw [t.is_finished_ledger] at stopped
    rw [later.is_finished_ledger, reached, Ledger.finished_note]
    exact t.ledger.finished_start span other _ _ stopped
  refine ⟨lapsed.undecided, lapsed.resumed, lapsed.marked, still server lapsed.finished, ?_⟩
  intro other member kept known
  have different : other ≠ handler := fun same => (List.nodup_cons.mp distinct).1 (same ▸ member)
  have before : request.marks.continuation? other = some kept := by
    rw [← known, Marks.continuation?, Marks.continuation?, Request.continueOn,
      put_continuation_other _ handler other span different]
  exact still kept (lapsed.idle other (List.mem_cons_of_mem _ member) kept before)

theorem innermost_below {α : Type} (read : Level → α) (level : Level) (rest : List Level) (outside : α) :
    ((level :: rest).getLast?.map read).getD outside = (rest.getLast?.map read).getD (read level) := by
  cases last : rest.getLast? <;> simp [List.getLast?_cons, last]

theorem dispatch_levels (layers : List (HandlerCoordinator × Handler)) (below : Service) (server : SpanContext)
    (request : Request) (t : Telemetry) (lapsed : Lapsed server (layers.map (·.2)) request t)
    (distinct : (layers.map (·.2)).Nodup) :
    let levels := levels t.sampler server layers request t.spans.length
    ∃ called, called.ledger = opened server levels t.ledger ∧
      called.current = (levels.getLast?.map Level.context).getD t.current ∧
      ∀ inner after, below.dispatch ((levels.getLast?.map Level.request).getD request) called = (some inner, after) →
        ∃ dispatched, dispatched.ledger = after.ledger ∧
          (handlers layers below).dispatch request t =
            (some (Task.guardedBy (levels.map Level.guard) inner), dispatched) := by
  induction layers generalizing request t with
  | nil => exact ⟨t, by simp [levels, opened], rfl, fun inner after answered => ⟨after, rfl, answered⟩⟩
  | cons layer rest ih =>
      obtain ⟨coordinator, handler⟩ := layer
      obtain ⟨handed, ledger⟩ := coordinator.pre_handle_opens request handler t server lapsed.undecided lapsed.resumed
        lapsed.marked lapsed.finished (lapsed.idle handler List.mem_cons_self)
      generalize opens : t.nextContext (.of server) = span at handed ledger
      have here : levels t.sampler server ((coordinator, handler) :: rest) request t.spans.length =
          ⟨coordinator, handler, span, request.continueOn handler span⟩ ::
            levels t.sampler server rest (request.continueOn handler span) (t.spans.length + 1) := by
        rw [← opens]
        rfl
      have tracer := coordinator.pre_handle_sampler request handler t
      rcases prepared : coordinator.preHandle request handler t with ⟨next, later⟩
      simp only [prepared] at handed ledger tracer
      subst handed
      have active : (request.continueOn handler span).marks.active? = some (.of span) := rfl
      have started : (later.attach (.of span)).spans.length = t.spans.length + 1 := by
        have lengths := congrArg (·.standings.length) ledger
        simpa [Telemetry.attach, Telemetry.ledger, Ledger.note, Ledger.start] using lengths
      obtain ⟨called, reached, current, answers⟩ := ih _ (later.attach (.of span))
        (lapsed_below server handler _ request _ _ t _ lapsed distinct ledger) (List.nodup_cons.mp distinct).2
      rw [started, show (later.attach (.of span)).sampler = t.sampler from tracer] at reached current answers
      dsimp only
      rw [here]
      refine ⟨called, ?_, ?_, ?_⟩
      · rw [reached, ← opened_below, Telemetry.ledger_attach, ledger]
        rfl
      · rw [innermost_below, current]
        rfl
      · intro inner after answered
        rw [innermost_below] at answered
        obtain ⟨dispatched, same, dispatches⟩ := answers inner after answered
        refine ⟨dispatched.detach, same, ?_⟩
        simp only [handlers, Service.dispatch, Service.callHandler, prepared, active, Option.getD_some, Telemetry.within,
          dispatches, Service.guardTask, Task.propagate]
        rfl

-- A level is done while its own span is open and the server span is not, so it
-- goes on with its own span and ends it.
theorem level_concludes (server : SpanContext) (level : Level) (outcome? : Option Outcome) (t : Telemetry)
    (keeps : level.Keeps server) (stopped : t.ledger.finished server = true)
    (running : t.ledger.finished level.span = false) :
    (level.guard.conclude outcome? t).ledger =
      (t.ledger.note (level.afterCompletionRound (.settled outcome?))).close level.span := by
  have finished : (t.attach level.context).isFinished server = true := by
    rw [Telemetry.is_finished_ledger]
    exact stopped
  have completed := fun response? fault? => level.coordinator.after_completion_own level.request response? level.handler
    fault? (t.attach level.context) server level.span keeps.undecided keeps.marked finished keeps.held keeps.active running
  rw [Level.guard, conclude_new]
  cases Signal.settled outcome? <;> exact completed _ _

theorem concluded_server (signal : Signal) (levels : List Level) (l : Ledger) (server : SpanContext)
    (stopped : l.finished server = true) : (concluded signal levels l).finished server = true := by
  induction levels with
  | nil => exact stopped
  | cons level rest ih => exact Ledger.finished_close _ level.span server ih

theorem concluded_other (signal : Signal) (levels : List Level) (l : Ledger) (span : SpanContext)
    (apart : ∀ level ∈ levels, level.span.span ≠ span.span) :
    (concluded signal levels l).standing? span = l.standing? span := by
  induction levels with
  | nil => rfl
  | cons level rest ih =>
      obtain ⟨first, others⟩ := List.forall_mem_cons.mp apart
      rw [concluded, List.foldr_cons, Ledger.standing_close_other _ _ _ (Ne.symm first), Ledger.standing_note]
      exact ih others

theorem level_apart (level : Level) (rest : List Level) (distinct : ((level :: rest).map (·.span.span)).Nodup) :
    ∀ other ∈ rest, other.span.span ≠ level.span.span := by
  intro other member same
  exact (List.nodup_cons.mp distinct).1 (List.mem_map.mpr ⟨other, member, same⟩)

-- What the levels inside have closed are spans of their own, so a level still
-- finds its span open.
theorem level_running (server : SpanContext) (signal : Signal) (level : Level) (rest : List Level) (before l : Ledger)
    (distinct : ((level :: rest).map (·.span.span)).Nodup) (left : Left server (level :: rest) before l) :
    (concluded signal rest l).standing? level.span = some ⟨level.span, false, false⟩ := by
  rw [concluded_other signal rest l level.span (level_apart level rest distinct)]
  exact left.running level List.mem_cons_self

theorem levels_conclude (server : SpanContext) (levels : List Level) (outcome? : Option Outcome) (before l : Ledger)
    (distinct : (levels.map (·.span.span)).Nodup) (keeps : ∀ level ∈ levels, level.Keeps server)
    (left : Left server levels before l) :
    Task.Concluded outcome? (levels.map Level.guard) l (concluded (.settled outcome?) levels l) := by
  induction levels with
  | nil => rfl
  | cons level rest ih =>
      obtain ⟨first, others⟩ := List.forall_mem_cons.mp keeps
      refine ⟨_, ih (List.nodup_cons.mp distinct).2 others (left_below server level rest before l left), ?_⟩
      intro t inside
      have running : t.ledger.finished level.span = false := by
        rw [inside, Ledger.finished, level_running server _ level rest before l distinct left]
        rfl
      rw [level_concludes server level outcome? t first (by rw [inside]; exact concluded_server _ rest l server left.finished)
        running, inside]
      rfl

theorem concluded_history (server : SpanContext) (signal : Signal) (levels : List Level) (before l : Ledger)
    (distinct : (levels.map (·.span.span)).Nodup) (left : Left server levels before l) :
    (concluded signal levels l).history = l.history ++ levels.reverse.flatMap (Level.closing signal) := by
  induction levels with
  | nil => simp [concluded]
  | cons level rest ih =>
      have running := level_running server signal level rest before l distinct left
      have inside := ih (List.nodup_cons.mp distinct).2 (left_below server level rest before l left)
      rw [concluded, List.foldr_cons, ← concluded, Ledger.close_history,
        Ledger.closure_running ((concluded signal rest l).note _) level.span false running, Ledger.note, inside]
      simp [Level.closing]

theorem concluded_closed (server : SpanContext) (signal : Signal) (levels : List Level) (before l : Ledger)
    (distinct : (levels.map (·.span.span)).Nodup) (left : Left server levels before l) :
    ∀ level ∈ levels, (concluded signal levels l).standing? level.span = some ⟨level.span, true, true⟩ := by
  induction levels with
  | nil => simp
  | cons level rest ih =>
      have running := level_running server signal level rest before l distinct left
      intro other member
      rw [concluded, List.foldr_cons, ← concluded]
      rcases List.mem_cons.mp member with rfl | below
      · exact Ledger.standing_close_self ((concluded signal rest l).note _) other.span _ running
      · rw [Ledger.standing_close_other _ _ _ (level_apart level rest distinct other below), Ledger.standing_note]
        exact ih (List.nodup_cons.mp distinct).2 (left_below server level rest before l left) other below

theorem closings_ended (signal : Signal) (levels : List Level) (span : SpanContext) :
    (levels.reverse.flatMap (Level.closing signal)).count (.ended span) = (levels.map (·.span)).count span := by
  induction levels with
  | nil => rfl
  | cons level rest ih =>
      have silent := List.count_eq_zero.mpr (level.coordinator.decorators.milestones_ended
        (.afterCompletion level.request level.handler signal.response? signal.fault?) (some level.span) span)
      have own : (Level.closing signal level).count (.ended span) = if level.span == span then 1 else 0 := by
        rw [Level.closing, Level.afterCompletionRound, List.count_append, silent]
        by_cases same : level.span = span <;> simp [same]
      rw [List.reverse_cons, List.flatMap_append, List.count_append, ih, List.map_cons, List.count_cons, ← own]
      simp

theorem levels_close (server : SpanContext) (levels : List Level) (inner : Task) (before : Ledger)
    (dispatched : Telemetry) (meanwhile : Nat → Telemetry → Telemetry) (polls : Nat) (distinct : (levels.map (·.span.span)).Nodup)
    (keeps : ∀ level ∈ levels, level.Keeps server) :
    let bare := (Task.scopedBy (levels.map Level.context) inner).drive meanwhile polls dispatched
    let run := (Task.guardedBy (levels.map Level.guard) inner).drive meanwhile polls dispatched
    Left server levels before bare.2.ledger →
      run.1 = bare.1 ∧
        run.2.history = bare.2.history ++ levels.reverse.flatMap (Level.closing (.settled bare.1)) ∧
        ∀ level ∈ levels, run.2.ledger.Closed level.span (before.history.count (.ended level.span) + 1) := by
  intro bare run left
  have contexts : (levels.map Level.guard).map TerminalGuard.context = levels.map Level.context := by
    rw [List.map_map]
    rfl
  obtain ⟨outcome, ledger⟩ := Task.drive_guarded_by meanwhile polls (levels.map Level.guard) inner dispatched
    (concluded (.settled bare.1) levels bare.2.ledger) (by
      rw [contexts]
      exact levels_conclude server levels bare.1 before bare.2.ledger distinct keeps left)
  rw [contexts] at outcome
  have history := concluded_history server (.settled bare.1) levels before bare.2.ledger distinct left
  refine ⟨outcome, ?_, ?_⟩
  · rw [Telemetry.history, ledger, history]
    rfl
  · intro level member
    have spans := spans_distinct levels distinct
    rw [ledger]
    refine ⟨concluded_closed server _ levels before bare.2.ledger distinct left level member, ?_⟩
    rw [history, List.count_append, left.unended level member, closings_ended, spans.count,
      if_pos (List.mem_map.mpr ⟨level, member, rfl⟩)]

-- `bare` is the task of the service below under the same schedule, in the
-- contexts of the levels but with no guard around it. On the way in the levels
-- open their spans, the outermost first, and run their rounds in them; on the
-- way out they close, the innermost first, each with its round and then the end
-- of its span.
theorem continuations_nest (layers : List (HandlerCoordinator × Handler)) (below : Service) (server : SpanContext)
    (request : Request) (t : Telemetry) (nonempty : layers ≠ []) (lapsed : Lapsed server (layers.map (·.2)) request t)
    (distinct : (layers.map (·.2)).Nodup) :
    let levels := levels t.sampler server layers request t.spans.length
    levels.map (fun level => (level.coordinator, level.handler)) = layers ∧ (levels.map (·.span)).Nodup ∧
      ∃ outer innermost called, levels = outer ++ [innermost] ∧ called.ledger = opened server levels t.ledger ∧
        called.current = innermost.context ∧ Left server levels t.ledger called.ledger ∧
        ∀ inner after, below.dispatch innermost.request called = (some inner, after) →
          ∃ task dispatched, (handlers layers below).dispatch request t = (some task, dispatched) ∧
            dispatched.ledger = after.ledger ∧
            ∀ (meanwhile : Nat → Telemetry → Telemetry) (polls : Nat),
              let bare := (Task.scopedBy (outer.map Level.context) (.scoped innermost.context inner)).drive meanwhile polls
                dispatched
              let run := task.drive meanwhile polls dispatched
              Left server levels t.ledger bare.2.ledger →
                run.1 = bare.1 ∧
                  run.2.history = bare.2.history ++ levels.reverse.flatMap (Level.closing (.settled bare.1)) ∧
                  ∀ level ∈ levels, run.2.ledger.Closed level.span (t.history.count (.ended level.span) + 1) := by
  intro levels
  have members : levels.map (fun level => (level.coordinator, level.handler)) = layers :=
    levels_handlers t.sampler server layers request t.spans.length
  have numbered : (levels.map (·.span.span)).Nodup := levels_distinct t.sampler server layers request t.spans.length
  have keeps : ∀ level ∈ levels, level.Keeps server :=
    levels_keep t.sampler server layers request t.spans.length lapsed.undecided lapsed.marked
  obtain ⟨outer, innermost, split⟩ := (List.eq_nil_or_concat levels).resolve_left fun empty => nonempty (by
    rw [← members, empty]
    rfl)
  rw [List.concat_eq_append] at split
  have last : (Stack.levels t.sampler server layers request t.spans.length).getLast? = some innermost :=
    (congrArg List.getLast? split).trans List.getLast?_concat
  obtain ⟨called, reached, current, answers⟩ := dispatch_levels layers below server request t lapsed distinct
  rw [last] at current answers
  refine ⟨members, spans_distinct levels numbered, outer, innermost, called, split, reached, current, ?_, ?_⟩
  · rw [reached]
    exact opened_left server layers request t lapsed.finished
  · intro inner after answered
    obtain ⟨dispatched, same, guarded⟩ := answers inner after answered
    refine ⟨_, dispatched, guarded, same, ?_⟩
    intro meanwhile polls
    have closes := levels_close server levels inner t.ledger dispatched meanwhile polls numbered keeps
    rw [show levels.map Level.context = outer.map Level.context ++ [innermost.context] by rw [split]; simp,
      Task.scoped_by_append] at closes
    exact closes

theorem continuations_nest_stock_check :
    let failed := Operation.run [.enter plainBoundary, .fail plainBoundary ⟨"payment declined", []⟩]
      (order, .start .silent false)
    let below := Service.innermost true (Answer.serve fun _ _ t => (stockCheck, t))
    ∃ task dispatched, (handlers shopLayers below).dispatch failed.1 failed.2 = (some task, dispatched) ∧
      (task.drive (fun _ t => t) 2 dispatched).2.history.count (.ended ⟨1, 2, true, false, .empty⟩) = 1 ∧
      (task.drive (fun _ t => t) 2 dispatched).2.history.count (.ended ⟨1, 3, true, false, .empty⟩) = 1 := by
  intro failed below
  let server := plainBoundary.serverSpan order (.start .silent false)
  have lapsed : Lapsed server (shopLayers.map (·.2)) failed.1 failed.2 := by
    refine ⟨rfl, rfl, rfl, rfl, ?_⟩
    intro handler _ kept held
    cases held
  obtain ⟨_, _, outer, innermost, called, _, _, _, opened, answers⟩ :=
    continuations_nest shopLayers below server failed.1 failed.2 (by simp [shopLayers]) lapsed (by decide)
  obtain ⟨task, dispatched, guarded, same, closes⟩ := answers (.ofWork stockCheck) called rfl
  have left := Task.drive_work_keeps (fun _ t => t) 2 (outer.map Level.context ++ [innermost.context]) stockCheck 0
    (Left server (levels failed.2.sampler server shopLayers failed.1 failed.2.spans.length) failed.2.ledger) dispatched
    (fun _ _ left => left)
    (fun _ t left => by
      change Left server _ _ (t.log .info "checking stock" []).ledger
      rw [Telemetry.ledger_log]
      exact left)
    (by rw [same]; exact opened)
  rw [Task.scoped_by_append] at left
  obtain ⟨_, _, closed⟩ := closes (fun _ t => t) 2 left
  exact ⟨task, dispatched, guarded, (closed _ List.mem_cons_self).2,
    (closed _ (List.mem_cons_of_mem _ List.mem_cons_self)).2⟩

-- When the service below handles with the handler of a layer above it, it goes
-- on with the span of that layer and ends it. The layer then completes on a
-- second span.
theorem nested_handler_ends_span :
    let failed := Operation.run [.enter plainBoundary, .fail plainBoundary ⟨"payment declined", []⟩]
      (order, .start .silent false)
    let server := plainBoundary.serverSpan order (.start .silent false)
    let layers := [(plainCoordinator, orders)]
    let below := Service.traceHandler plainCoordinator orders (.innermost true (Answer.serve fun _ _ t => (stockCheck, t)))
    let first : SpanContext := ⟨1, 2, true, false, .empty⟩
    let second : SpanContext := ⟨1, 3, true, false, .empty⟩
    let prepared := Hook.preHandle (failed.1.continueOn orders first) orders
    let completed := fun span => Hook.afterCompletion (failed.1.continueOn orders span) orders none
      (some ⟨"out of stock", []⟩)
    Lapsed server (layers.map (·.2)) failed.1 failed.2 ∧ (layers.map (·.2)).Nodup ∧
      ∃ task dispatched, (handlers layers below).dispatch failed.1 failed.2 = (some task, dispatched) ∧
        (task.drive (fun _ t => t) 2 dispatched).2.history = failed.2.history ++
          [.started first (some server) [server], .round prepared (some first), .round prepared (some first),
            .round (completed first) (some first), .finishing first true, .ended first,
            .started second (some server) [server], .round (completed second) (some second), .finishing second true,
            .ended second] := by
  intro failed server layers below first second prepared completed
  refine ⟨⟨rfl, rfl, rfl, rfl, ?_⟩, by decide, ?_⟩
  · intro handler _ kept held
    cases held
  · refine ⟨_, _, rfl, ?_⟩
    decide +kernel

end Stack

end RequestSpans
