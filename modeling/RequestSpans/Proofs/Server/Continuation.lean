import RequestSpans.Proofs.Server.Sharing

set_option autoImplicit false

namespace RequestSpans

namespace Operation

def starts (operation : Operation) (request : Request) (t : Telemetry) : List SpanContext :=
  ((operation.apply request t).2.history.drop t.history.length).filterMap Milestone.started?

def openings : List Operation → Request → Telemetry → List (Handler × SpanContext)
  | [], _, _ => []
  | operation :: rest, request, t =>
      (match operation.handler? with
        | some handler => (operation.starts request t).map fun span => (handler, span)
        | none => []) ++ openings rest (operation.apply request t).1 (operation.apply request t).2

def openedFor (handler : Handler) (log : List (Handler × SpanContext)) : List SpanContext :=
  (log.filter fun entry => entry.1 = handler).map (·.2)

end Operation

structure Continuation (server : SpanContext) (news : List Milestone) (l : Ledger) (span : SpanContext) : Prop where
  apart : span.span ≠ server.span
  tidy : l.Tidy span
  follows : [.ended server, .started span (some server) [server]].Sublist news
  trace : span.trace = server.trace
  ended : news.count (.ended span) = (l.finished span).toNat

-- The account of all spans opened for handlers. A span is in the table under
-- its handler as long as it is open; so no handler has two open ones, and no
-- other handler can come by one.
structure Account (server : SpanContext) (news : List Milestone) (table : List (Handler × SpanContext)) (l : Ledger)
    (log : List (Handler × SpanContext)) : Prop where
  keys : (table.map (·.1)).Nodup
  distinct : (log.map (·.2.span)).Nodup
  entries : ∀ entry ∈ table, entry ∈ log
  held : ∀ entry ∈ log, l.finished entry.2 = false → (table.find? fun kept => kept.1 = entry.1).map (·.2) = some entry.2
  spans : ∀ entry ∈ log, Continuation server news l entry.2
  complete : ∀ span parent? links, .started span parent? links ∈ news → span = server ∨ span ∈ log.map (·.2)

theorem continuation_frame (server : SpanContext) (news events : List Milestone) (l after : Ledger) (span : SpanContext)
    (continuation : Continuation server news l span) (silent : .ended span ∉ events)
    (same : after.standing? span = l.standing? span) : Continuation server (news ++ events) after span := by
  obtain ⟨flag, known⟩ := continuation.tidy
  refine ⟨continuation.apart, ⟨flag, same.trans known⟩, ?_, continuation.trace, ?_⟩
  · exact continuation.follows.trans (List.sublist_append_left news events)
  · rw [List.count_append, List.count_eq_zero.mpr silent, continuation.ended, Ledger.finished, Ledger.finished, same]
    rfl

theorem account_entry (server : SpanContext) (news : List Milestone) (table : List (Handler × SpanContext)) (l : Ledger)
    (log : List (Handler × SpanContext)) (account : Account server news table l log) (a b : Handler × SpanContext)
    (first : a ∈ log) (second : b ∈ log) (same : a.2.span = b.2.span) : a = b := by
  have distinct := account.distinct
  rw [List.Nodup, List.pairwise_map] at distinct
  rcases List.mem_iff_getElem.mp first with ⟨i, low, rfl⟩
  rcases List.mem_iff_getElem.mp second with ⟨j, high, rfl⟩
  rcases Nat.lt_trichotomy i j with before | equal | behind
  · exact absurd same (List.pairwise_iff_getElem.mp distinct i j low high before)
  · simp only [equal]
  · exact absurd same.symm (List.pairwise_iff_getElem.mp distinct j i high low behind)

theorem account_frame (server : SpanContext) (news events : List Milestone) (table : List (Handler × SpanContext))
    (l after : Ledger) (log : List (Handler × SpanContext)) (account : Account server news table l log)
    (silent : ∀ span : SpanContext, span.span ≠ server.span → .ended span ∉ events)
    (same : ∀ span : SpanContext, span.span ≠ server.span → after.standing? span = l.standing? span)
    (starts : ∀ span parent? links, .started span parent? links ∉ events) :
    Account server (news ++ events) table after log := by
  refine ⟨account.keys, account.distinct, account.entries, ?_, ?_, ?_⟩
  · intro entry member running
    have apart := (account.spans entry member).apart
    refine account.held entry member ?_
    rw [Ledger.finished, ← same entry.2 apart]
    exact running
  · intro entry member
    have continuation := account.spans entry member
    exact continuation_frame server news events l after entry.2 continuation (silent entry.2 continuation.apart)
      (same entry.2 continuation.apart)
  · intro span parent? links started
    rcases List.mem_append.mp started with old | new
    · exact account.complete span parent? links old
    · exact absurd new (starts span parent? links)

theorem account_open (server : SpanContext) (news : List Milestone) (table : List (Handler × SpanContext)) (l : Ledger)
    (log : List (Handler × SpanContext)) (account : Account server news table l log) (handler : Handler)
    (span : SpanContext) (chronicle : Chronicle news l) (known : l.standing? server = some ⟨server, true, true⟩)
    (closed : .ended server ∈ news) (next : l.Next span) (trace : span.trace = server.trace)
    (stopped : ∀ kept, (table.find? fun entry => entry.1 = handler).map (·.2) = some kept → l.finished kept = true) :
    Account server (news ++ [.started span (some server) [server]]) (Marks.putContinuation table handler span)
      (l.start span (some server) [server]) (log ++ [(handler, span)]) := by
  have last := next.2
  have earlier : ∀ entry ∈ log, entry.2.span < span.span := by
    intro entry member
    obtain ⟨flag, standing⟩ := (account.spans entry member).tidy
    have bound := l.standing_bound entry.2 _ standing
    omega
  have unended : .ended span ∉ news := by
    intro ended
    obtain ⟨finished, standing⟩ := chronicle.past span ended
    have bound := l.standing_bound span _ standing
    omega
  have same : ∀ entry ∈ log, (l.start span (some server) [server]).standing? entry.2 = l.standing? entry.2 := by
    intro entry member
    obtain ⟨flag, standing⟩ := (account.spans entry member).tidy
    rw [standing]
    exact l.standing_start_old span entry.2 _ _ _ standing
  have opened := l.standing_start_new span (some server) [server] next
  refine ⟨put_continuation_keys table handler span account.keys, ?_, ?_, ?_, ?_, ?_⟩
  · rw [List.map_append, List.nodup_append]
    refine ⟨account.distinct, by simp, ?_⟩
    intro a old b new equal
    obtain ⟨entry, member, rfl⟩ := List.mem_map.mp old
    have before := earlier entry member
    have value : b = span.span := List.mem_singleton.mp new
    omega
  · intro entry member
    rcases put_continuation_member table handler span entry member with rfl | old
    · exact List.mem_append_right log List.mem_cons_self
    · exact List.mem_append_left _ (account.entries entry old)
  · intro entry member running
    rcases List.mem_append.mp member with old | new
    · have before : l.finished entry.2 = false := by
        rw [Ledger.finished, ← same entry old]
        exact running
      have kept := account.held entry old before
      have different : entry.1 ≠ handler := by
        intro equal
        have gone := stopped entry.2 (by rw [← equal]; exact kept)
        rw [before] at gone
        contradiction
      rw [put_continuation_other table handler entry.1 span different]
      exact kept
    · obtain rfl : entry = (handler, span) := List.mem_singleton.mp new
      exact put_continuation_self table handler span
  · intro entry member
    rcases List.mem_append.mp member with old | new
    · exact continuation_frame server news _ l _ entry.2 (account.spans entry old) (by simp) (same entry old)
    · obtain rfl : entry = (handler, span) := List.mem_singleton.mp new
      have bound := l.standing_bound server _ known
      refine ⟨?_, ⟨false, opened⟩, ?_, trace, ?_⟩
      · dsimp only
        omega
      · exact (List.singleton_sublist.mpr closed).append (List.Sublist.refl _)
      · rw [List.count_append, List.count_eq_zero.mpr unended, Ledger.finished, opened]
        simp
  · intro other parent? links started
    rcases List.mem_append.mp started with old | new
    · rcases account.complete other parent? links old with first | continued
      · exact .inl first
      · exact .inr (by rw [List.map_append]; exact List.mem_append_left _ continued)
    · simp only [List.mem_singleton, Milestone.started.injEq] at new
      exact .inr (by simp [new.1])

theorem account_close (server : SpanContext) (news : List Milestone) (table : List (Handler × SpanContext)) (l : Ledger)
    (log : List (Handler × SpanContext)) (account : Account server news table l log) (handler : Handler)
    (span : SpanContext) (owned : (handler, span) ∈ log) (running : l.standing? span = some ⟨span, false, false⟩) :
    Account server (news ++ [.finishing span true, .ended span]) table (l.close span) log := by
  have closed := l.standing_close_self span _ running
  have others : ∀ entry ∈ log, entry.2.span ≠ span.span → (l.close span).standing? entry.2 = l.standing? entry.2 :=
    fun entry _ different => l.standing_close_other span entry.2 different
  have itself : ∀ entry ∈ log, entry.2.span = span.span → entry = (handler, span) :=
    fun entry member same => account_entry server news table l log account entry _ member owned same
  refine ⟨account.keys, account.distinct, account.entries, ?_, ?_, ?_⟩
  · intro entry member still
    have different : entry.2.span ≠ span.span := by
      intro same
      obtain rfl := itself entry member same
      simp [Ledger.finished, closed] at still
    refine account.held entry member ?_
    rw [Ledger.finished, ← others entry member different]
    exact still
  · intro entry member
    have continuation := account.spans entry member
    by_cases same : entry.2.span = span.span
    · obtain rfl := itself entry member same
      refine ⟨continuation.apart, ⟨true, closed⟩, continuation.follows.trans (List.sublist_append_left _ _),
        continuation.trace, ?_⟩
      rw [List.count_append, continuation.ended, Ledger.finished, Ledger.finished, closed, running]
      simp
    · refine continuation_frame server news _ l _ entry.2 continuation ?_ (others entry member same)
      have different : entry.2 ≠ span := fun equal => same (by rw [equal])
      simp [different]
  · intro other parent? links started
    rcases List.mem_append.mp started with old | new
    · exact account.complete other parent? links old
    · simp at new

structure Accounted (server : SpanContext) (stopped : Bool) (base news : List Milestone) (request : Request)
    (t : Telemetry) (log : List (Handler × SpanContext)) : Prop where
  traced : Traced server stopped base news ⟨[request], t⟩
  account : Account server news request.marks.continuations t.ledger log
  labels : ∀ entry ∈ log, Labelled t server entry.2 entry.1

theorem traced_step (operation : Operation) (server : SpanContext) (stopped : Bool) (base news events : List Milestone)
    (request : Request) (t : Telemetry) (traced : Traced server stopped base news ⟨[request], t⟩)
    (history : (operation.apply request t).2.history = t.history ++ events) :
    ∃ later, (stopped = true → later = true) ∧
      Traced server later base (news ++ events) ⟨[(operation.apply request t).1], (operation.apply request t).2⟩ := by
  obtain ⟨later, added, grows, stepped⟩ := act_traced (.on 0 operation) server stopped base news ⟨[request], t⟩ traced
  have same : added = events := by
    have total : (operation.apply request t).2.history = base ++ (news ++ added) := stepped.history
    have before : t.history = base ++ news := traced.history
    rw [history, before, List.append_assoc, List.append_cancel_left_eq, List.append_cancel_left_eq] at total
    exact total.symm
  exact ⟨later, grows, same ▸ stepped⟩

inductive Obtained (l : Ledger) (server : SpanContext) (handler : Handler) (log : List (Handler × SpanContext))
    (span : SpanContext) : List Milestone → List (Handler × SpanContext) → Prop
  | shared (known : (handler, span) ∈ log) (running : l.finished span = false) : Obtained l server handler log span [] []
  | opened (stopped : ∀ entry ∈ log, entry.1 = handler → l.finished entry.2 = true) :
      Obtained l server handler log span [.started span (some server) [server]] [(handler, span)]

theorem resumption_accounts (server : SpanContext) (base news : List Milestone) (request : Request) (t : Telemetry)
    (log : List (Handler × SpanContext)) (accounted : Accounted server true base news request t log) (handler : Handler)
    (span : SpanContext) (reached : Ledger)
    (resumption : Resumption t.ledger server handler request.marks span reached) :
    ∃ starts opened, Obtained t.ledger server handler log span starts opened ∧ (handler, span) ∈ log ++ opened ∧
      reached.history = t.ledger.history ++ starts ∧ reached.standing? span = some ⟨span, false, false⟩ ∧
      Account server (news ++ starts) (Marks.putContinuation request.marks.continuations handler span) reached
        (log ++ opened) := by
  have account := accounted.account
  have tally := accounted.traced.tally
  cases resumption with
  | reused held running =>
      obtain ⟨entry, found, rfl⟩ := Option.map_eq_some_iff.mp held
      have owner : entry.1 = handler := by simpa using List.find?_some found
      have known : (handler, entry.2) ∈ log := by
        rw [← owner]
        exact account.entries entry (List.mem_of_find?_eq_some found)
      refine ⟨[], [], .shared known running, by simpa using known, by simp, ?_, ?_⟩
      · exact t.ledger.tidy_running entry.2 (account.spans _ known).tidy running
      · rw [put_continuation_same _ handler entry.2 held]
        simpa using account
  | opened stopped next trace =>
      refine ⟨[.started span (some server) [server]], [(handler, span)], .opened ?_, by simp, rfl, ?_, ?_⟩
      · intro entry member owner
        cases flag : t.ledger.finished entry.2 with
        | true => rfl
        | false =>
            have kept := account.held entry member flag
            rw [owner] at kept
            rw [← flag]
            exact stopped entry.2 kept
      · exact t.ledger.standing_start_new span (some server) [server] next
      · have ended := tally.ended
        exact account_open server news _ t.ledger log account handler span accounted.traced.chronicle tally.standing
          (List.one_le_count_iff.mp (by rw [ended]; exact Nat.le_refl 1)) next trace stopped

structure Continues (operation : Operation) (request : Request) (t : Telemetry) (server : SpanContext) (handler : Handler)
    (log : List (Handler × SpanContext)) (span : SpanContext) (starts : List Milestone)
    (opened : List (Handler × SpanContext)) (events : List Milestone) : Prop where
  obtained : Obtained t.ledger server handler log span starts opened
  history : (operation.apply request t).2.history = t.history ++ events
  starts : operation.starts request t = opened.map (·.2)
  shows : ∃ hook, .round hook (some span) ∈ events
  alone : ∀ m ∈ events, ∀ shown, m.shown? = some shown → shown = span
  current : (operation.apply request t).1.marks.continuation? handler = some span
  completed : (operation.apply request t).2.ledger.finished span = operation.completes
  ends : ∀ other, .ended other ∈ events → operation.completes = true ∧ other = span

theorem starts_of_history (operation : Operation) (request : Request) (t : Telemetry) (events : List Milestone)
    (history : (operation.apply request t).2.history = t.history ++ events) :
    operation.starts request t = events.filterMap Milestone.started? := by
  rw [Operation.starts, history, List.drop_left]

theorem rounds_start_nothing (chain : DecoratorChain) (hook : Hook) (span? : Option SpanContext) :
    (chain.milestones hook span?).filterMap Milestone.started? = [] := by
  rw [List.filterMap_eq_nil_iff]
  exact milestones_started chain hook span?

theorem completion_accounts (server : SpanContext) (news : List Milestone) (table : List (Handler × SpanContext))
    (l : Ledger) (log : List (Handler × SpanContext)) (account : Account server news table l log) (handler : Handler)
    (span : SpanContext) (owned : (handler, span) ∈ log) (running : l.standing? span = some ⟨span, false, false⟩)
    (completes : Bool) :
    ∃ ends, (if completes then l.close span else l).history = l.history ++ ends ∧
      (∀ m ∈ ends, m.started? = none ∧ m.shown? = none) ∧
      (∀ other, .ended other ∈ ends → completes = true ∧ other = span) ∧
      (if completes then l.close span else l).finished span = completes ∧
      Account server (news ++ ends) table (if completes then l.close span else l) log := by
  cases completes with
  | false =>
      refine ⟨[], by simp, by simp, by simp, ?_, by simpa using account⟩
      simp [Ledger.finished, running]
  | true =>
      refine ⟨[.finishing span true, .ended span], ?_, by simp [Milestone.started?, Milestone.shown?], by simp, ?_, ?_⟩
      · rw [if_pos rfl, Ledger.close_history, Ledger.closure_running l span false running]
        rfl
      · simp [Ledger.finished, l.standing_close_self span _ running]
      · exact account_close server news table l log account handler span owned running

theorem labels_later (operation : Operation) (request : Request) (t later : Telemetry) (server : SpanContext)
    (handler : Handler) (marks : Marks) (span : SpanContext) (log opened : List (Handler × SpanContext))
    (starts : List Milestone) (labels : ∀ entry ∈ log, Labelled t server entry.2 entry.1)
    (resumes : Resumes t server handler marks span later) (grows : later.Grows (operation.apply request t).2)
    (obtained : Obtained t.ledger server handler log span starts opened)
    (reached : later.ledger.history = t.ledger.history ++ starts) :
    ∀ entry ∈ log ++ opened, Labelled (operation.apply request t).2 server entry.2 entry.1 := by
  intro entry member
  rcases List.mem_append.mp member with old | new
  · exact labelled_grows t _ server entry.2 entry.1 (labels entry old) (operation.grows request t)
  · cases obtained with
    | shared known _ => simp at new
    | opened _ =>
        obtain rfl : entry = (handler, span) := List.mem_singleton.mp new
        rcases resumes.labelled with rfl | labelled
        · have lengths := congrArg List.length reached
          simp at lengths
        · exact labelled_grows later _ server span handler labelled grows

theorem operation_accounts (operation : Operation) (server : SpanContext) (base news : List Milestone) (request : Request)
    (t : Telemetry) (log : List (Handler × SpanContext)) (accounted : Accounted server true base news request t log)
    (handler : Handler) (handled : operation.handler? = some handler) (active : operation.resumes request = false) :
    ∃ span starts opened events later, Continues operation request t server handler log span starts opened events ∧
      Accounted server later base (news ++ events) (operation.apply request t).1 (operation.apply request t).2
        (log ++ opened) := by
  have holds := accounted.traced.holds request List.mem_cons_self
  have finished : t.isFinished server = true := by
    rw [t.is_finished_ledger, Ledger.finished, accounted.traced.tally.standing]
    rfl
  obtain ⟨span, later, rounds, resumes, grows, continues, noted⟩ :=
    operation.operation_continues request t server handler handled active holds.traced holds.wrapper finished
  obtain ⟨starts, opened, obtained, owned, reached, running, account⟩ := resumption_accounts server base news request t log
    accounted handler span later.ledger continues.resumption
  obtain ⟨chain, hook, _, rfl⟩ := continues.round
  have decorated : Account server (news ++ starts ++ chain.milestones hook (some span))
      (Marks.putContinuation request.marks.continuations handler span)
      (later.ledger.note (chain.milestones hook (some span))) (log ++ opened) := by
    refine account_frame server _ _ _ later.ledger _ _ account ?_ (fun _ _ => rfl) ?_
    · exact fun other _ => chain.milestones_ended hook (some span) other
    · exact fun other parent? links started => by simpa [Milestone.started?] using milestones_started chain hook _ _ started
  obtain ⟨ends, last, quiet, ended, completed, final⟩ := completion_accounts server _ _ _ _ decorated handler span owned
    running operation.completes
  rw [← noted] at last completed final
  have history : (operation.apply request t).2.history =
      t.history ++ (starts ++ chain.milestones hook (some span) ++ ends) := by
    rw [Telemetry.history, last, Ledger.note, reached]
    simp [Telemetry.history]
  obtain ⟨flag, _, traced⟩ := traced_step operation server true base news _ request t accounted.traced history
  refine ⟨span, starts, opened, _, flag, ⟨obtained, history, ?_, ?_, ?_, ?_, completed, ?_⟩, traced, ?_,
    labels_later operation request t later server handler _ span log opened starts accounted.labels resumes grows obtained
      reached⟩
  · rw [starts_of_history operation request t _ history, List.filterMap_append, List.filterMap_append,
      rounds_start_nothing, List.filterMap_eq_nil_iff.mpr fun m member => (quiet m member).1]
    cases obtained <;> simp [Milestone.started?]
  · exact ⟨hook, by simp [DecoratorChain.milestones]⟩
  · intro m member shown known
    rcases List.mem_append.mp member with before | after
    · rcases List.mem_append.mp before with first | round
      · cases obtained with
        | shared _ _ => simp at first
        | opened _ => simp [List.mem_singleton.mp first, Milestone.shown?] at known
      · exact (Option.some.inj ((milestones_shown chain hook span m round).symm.trans known)).symm
    · simp [(quiet m after).2] at known
  · rw [Marks.continuation?, continues.continuations]
    exact put_continuation_self _ handler span
  · intro other member
    rcases List.mem_append.mp member with before | after
    · rcases List.mem_append.mp before with first | round
      · cases obtained <;> simp at first
      · exact absurd round (chain.milestones_ended hook _ other)
    · exact ended other after
  · rw [continues.continuations, ← List.append_assoc, ← List.append_assoc]
    exact final

def Operation.Leaves (operation : Operation) (request : Request) (stopped : Bool) : Prop :=
  stopped = true → operation.handler? = none ∨ operation.resumes request = true

theorem resuming_rests (operation : Operation) (request : Request) (t : Telemetry)
    (resuming : operation.resumes request = true) :
    request.Keeps (operation.apply request t).1 ∧ (operation.apply request t).2.ledger = t.ledger := by
  cases operation with
  | preHandle coordinator handler =>
      obtain ⟨moved, same⟩ := coordinator.pre_handle_pending request handler t resuming
      simp only [Operation.apply, moved, same]
      exact ⟨⟨rfl, rfl, rfl⟩, trivial⟩
  | enter _ => simp [Operation.resumes] at resuming
  | complete _ _ => simp [Operation.resumes] at resuming
  | fail _ _ => simp [Operation.resumes] at resuming
  | cancel _ => simp [Operation.resumes] at resuming
  | asyncStarted _ _ => simp [Operation.resumes] at resuming
  | afterCompletion _ _ _ _ => simp [Operation.resumes] at resuming
  | finish => simp [Operation.resumes] at resuming

theorem operation_leaves (operation : Operation) (server : SpanContext) (stopped : Bool) (news : List Milestone)
    (request : Request) (t : Telemetry) (tally : Tally server stopped news t.ledger)
    (holds : Holds server stopped news t.ledger request.marks) (leaves : operation.Leaves request stopped) :
    request.Keeps (operation.apply request t).1 ∧ ∃ events,
      (operation.apply request t).2.history = t.history ++ events ∧ (∀ m ∈ events, m.started? = none) ∧
      (∀ span : SpanContext, span.span ≠ server.span → .ended span ∉ events) ∧
      ∀ span : SpanContext, span.span ≠ server.span →
        (operation.apply request t).2.ledger.standing? span = t.ledger.standing? span := by
  cases resuming : operation.resumes request with
  | true =>
      obtain ⟨keeps, same⟩ := resuming_rests operation request t resuming
      refine ⟨keeps, [], ?_, by simp, by simp, fun span _ => by rw [same]⟩
      rw [Telemetry.history, same]
      simp [Telemetry.history]
  | false =>
      have effect := operation.effect request t fun span handler =>
        holds_apart server stopped news request t tally holds span handler
      generalize operation.apply request t = result at effect ⊢
      obtain ⟨next, after⟩ := result
      dsimp only at effect ⊢
      rw [Telemetry.history, Telemetry.history]
      generalize after.ledger = l at effect ⊢
      cases effect with
      | rested keeps => exact ⟨keeps, [], by simp, by simp, by simp, fun _ _ => rfl⟩
      | refused unmarked _ => exact absurd (unmarked.symm.trans holds.wrapper) (by simp)
      | admitted _ _ _ _ _ unmarked _ _ _ _ => exact absurd (unmarked.symm.trans holds.wrapper) (by simp)
      | decorated span chain hook _ _ keeps _ =>
          refine ⟨keeps, chain.milestones hook (some span), rfl, milestones_started chain hook _, ?_, fun _ _ => rfl⟩
          exact fun other _ => chain.milestones_ended hook _ other
      | closed span rounds marked running keeps verdict =>
          obtain rfl : span = server := Option.some.inj (marked.symm.trans holds.wrapper)
          have open_ : stopped = false := by
            rw [Ledger.finished, tally.standing] at running
            exact running
          have known : (t.ledger.note rounds).standing? span = some ⟨span, false, false⟩ := open_ ▸ tally.standing
          have quiet : (∀ m ∈ rounds, m.started? = none) ∧ ∀ other, .ended other ∉ rounds := by
            rcases verdict with rfl | ⟨chain, hook, rfl⟩
            · simp
            · exact ⟨milestones_started chain hook _, chain.milestones_ended hook _⟩
          refine ⟨keeps, rounds ++ [.finishing span true, .ended span], ?_, ?_, ?_, ?_⟩
          · rw [Ledger.close_history, Ledger.closure_running _ span false known, Ledger.note, List.append_assoc]
            rfl
          · intro m member
            rcases List.mem_append.mp member with round | last
            · exact quiet.1 m round
            · simp only [List.mem_cons, List.not_mem_nil, or_false] at last
              rcases last with rfl | rfl <;> rfl
          · intro other apart
            have different : other ≠ span := fun same => apart (by rw [same])
            simp [quiet.2 other, different]
          · intro other apart
            exact (t.ledger.note rounds).standing_close_other span other apart
      | refinished span _ _ keeps =>
          exact ⟨keeps, [.finishing span false], rfl, by simp [Milestone.started?], by simp, fun _ _ => rfl⟩
      | continued span handler _ _ _ marked finished continues =>
          obtain rfl : span = server := Option.some.inj (marked.symm.trans holds.wrapper)
          rw [Ledger.finished, tally.standing] at finished
          rcases leaves finished with unhandled | resumes
          · exact absurd (unhandled.symm.trans continues.handled) (by simp)
          · exact absurd (resuming.symm.trans resumes) (by simp)

theorem operation_keeps_account (operation : Operation) (server : SpanContext) (stopped : Bool)
    (base news : List Milestone) (request : Request) (t : Telemetry) (log : List (Handler × SpanContext))
    (accounted : Accounted server stopped base news request t log) (leaves : operation.Leaves request stopped) :
    ∃ later events, Accounted server later base (news ++ events) (operation.apply request t).1 (operation.apply request t).2
        log ∧ operation.starts request t = [] ∧ (operation.apply request t).2.history = t.history ++ events ∧
      ∀ span : SpanContext, span.span ≠ server.span → .ended span ∉ events := by
  have holds := accounted.traced.holds request List.mem_cons_self
  obtain ⟨keeps, events, history, quiet, silent, same⟩ :=
    operation_leaves operation server stopped news request t accounted.traced.tally holds leaves
  obtain ⟨later, _, traced⟩ := traced_step operation server stopped base news events request t accounted.traced history
  refine ⟨later, events, ⟨traced, ?_, ?_⟩, ?_, history, silent⟩
  · rw [keeps.continuations]
    refine account_frame server news events _ t.ledger _ log accounted.account silent same ?_
    exact fun span parent? links started => by simpa [Milestone.started?] using quiet _ started
  · exact fun entry member => labelled_grows t _ server entry.2 entry.1 (accounted.labels entry member)
      (operation.grows request t)
  · rw [starts_of_history operation request t events history]
    exact List.filterMap_eq_nil_iff.mpr quiet

theorem openings_single (operation : Operation) (request : Request) (t : Telemetry) :
    Operation.openings [operation] request t = match operation.handler? with
      | some handler => (operation.starts request t).map fun span => (handler, span)
      | none => [] := by
  simp [Operation.openings]

theorem openings_append (operations more : List Operation) (request : Request) (t : Telemetry) :
    Operation.openings (operations ++ more) request t = Operation.openings operations request t ++
      Operation.openings more (Operation.run operations (request, t)).1 (Operation.run operations (request, t)).2 := by
  induction operations generalizing request t with
  | nil => rfl
  | cons operation rest ih =>
      simp only [List.cons_append, Operation.openings, ih, List.append_assoc]
      rfl

theorem continues_openings (operation : Operation) (request : Request) (t : Telemetry) (server : SpanContext)
    (handler : Handler) (log : List (Handler × SpanContext)) (span : SpanContext) (starts : List Milestone)
    (opened : List (Handler × SpanContext)) (events : List Milestone) (handled : operation.handler? = some handler)
    (continues : Continues operation request t server handler log span starts opened events) :
    Operation.openings [operation] request t = opened := by
  rw [openings_single, handled, continues.starts]
  cases continues.obtained <;> rfl

theorem leaves_openings (operation : Operation) (request : Request) (t : Telemetry)
    (nothing : operation.starts request t = []) : Operation.openings [operation] request t = [] := by
  rw [openings_single, nothing]
  cases operation.handler? <;> rfl

theorem leaves_or_continues (operation : Operation) (request : Request) (stopped : Bool) :
    operation.Leaves request stopped ∨
      stopped = true ∧ ∃ handler, operation.handler? = some handler ∧ operation.resumes request = false := by
  cases stopped with
  | false => exact .inl (by simp [Operation.Leaves])
  | true =>
      cases handled : operation.handler? with
      | none => exact .inl fun _ => .inl handled
      | some handler =>
          cases resuming : operation.resumes request with
          | true => exact .inl fun _ => .inr resuming
          | false => exact .inr ⟨rfl, handler, rfl, rfl⟩

theorem step_accounted (operation : Operation) (server : SpanContext) (stopped : Bool) (base news : List Milestone)
    (request : Request) (t : Telemetry) (log : List (Handler × SpanContext))
    (accounted : Accounted server stopped base news request t log) :
    ∃ later events, Accounted server later base (news ++ events) (operation.apply request t).1 (operation.apply request t).2
      (log ++ Operation.openings [operation] request t) := by
  rcases leaves_or_continues operation request stopped with leaves | ⟨rfl, handler, handled, active⟩
  · obtain ⟨later, events, kept, nothing, _, _⟩ :=
      operation_keeps_account operation server stopped base news request t log accounted leaves
    rw [leaves_openings operation request t nothing, List.append_nil]
    exact ⟨later, events, kept⟩
  · obtain ⟨span, starts, opened, events, later, continues, kept⟩ :=
      operation_accounts operation server base news request t log accounted handler handled active
    rw [continues_openings operation request t server handler log span starts opened events handled continues]
    exact ⟨later, events, kept⟩

theorem run_accounted (operations : List Operation) (server : SpanContext) (stopped : Bool) (base news : List Milestone)
    (request : Request) (t : Telemetry) (log : List (Handler × SpanContext))
    (accounted : Accounted server stopped base news request t log) :
    ∃ later events, Accounted server later base events (Operation.run operations (request, t)).1
      (Operation.run operations (request, t)).2 (log ++ Operation.openings operations request t) := by
  induction operations generalizing stopped news request t log with
  | nil => exact ⟨stopped, news, by simpa [Operation.openings, Operation.run] using accounted⟩
  | cons operation rest ih =>
      obtain ⟨between, events, stepped⟩ := step_accounted operation server stopped base news request t log accounted
      obtain ⟨later, last, ran⟩ := ih between _ _ _ _ stepped
      refine ⟨later, last, ?_⟩
      rw [show operation :: rest = [operation] ++ rest from rfl, openings_append, ← List.append_assoc]
      exact ran

theorem admitted_accounted (server : SpanContext) (base news : List Milestone) (request : Request) (t : Telemetry)
    (traced : Traced server false base news ⟨[request], t⟩)
    (first : ∀ span parent? links, .started span parent? links ∈ news → span = server) :
    Accounted server false base news request t [] := by
  have bare : request.marks.continuations = [] := (traced.holds request List.mem_cons_self).early rfl
  refine ⟨traced, ⟨by simp [bare], by simp, by simp [bare], by simp, by simp, ?_⟩, by simp⟩
  exact fun span parent? links started => .inl (first span parent? links started)

theorem run_spanless_accounted (operations : List Operation) (base : List Milestone) (request : Request) (t : Telemetry)
    (spanless : Spanless base ⟨[request], t⟩) :
    (Spanless base ⟨[(Operation.run operations (request, t)).1], (Operation.run operations (request, t)).2⟩ ∧
      Operation.openings operations request t = []) ∨
    ∃ server stopped news, Accounted server stopped base news (Operation.run operations (request, t)).1
      (Operation.run operations (request, t)).2 (Operation.openings operations request t) := by
  induction operations generalizing request t with
  | nil => exact .inl ⟨spanless, rfl⟩
  | cons operation rest ih =>
      have split : Operation.openings (operation :: rest) request t = Operation.openings [operation] request t ++
          Operation.openings rest (operation.apply request t).1 (operation.apply request t).2 :=
        openings_append [operation] rest request t
      rcases operation_spanless operation base ⟨[request], t⟩ 0 request spanless rfl with
        still | ⟨entering, server, news, first, traced⟩
      · have nothing : operation.starts request t = [] := by
          have same : (operation.apply request t).2.history = t.history := still.history.trans spanless.history.symm
          rw [Operation.starts, same, List.drop_length]
          rfl
        rw [split, leaves_openings operation request t nothing, List.nil_append]
        exact ih _ _ still
      · have accounted := admitted_accounted server base news _ _ traced first
        obtain ⟨later, events, ran⟩ := run_accounted rest server false base news _ _ [] accounted
        refine .inr ⟨server, later, events, ?_⟩
        rw [split, openings_single, entering]
        exact ran

theorem opened_for_member (handler : Handler) (log : List (Handler × SpanContext)) (span : SpanContext) :
    span ∈ Operation.openedFor handler log ↔ (handler, span) ∈ log := by
  simp [Operation.openedFor]

theorem opened_for_distinct (handler : Handler) (log : List (Handler × SpanContext))
    (distinct : (log.map (·.2.span)).Nodup) : (Operation.openedFor handler log).Nodup := by
  have indices : ((log.filter fun entry => entry.1 = handler).map (·.2.span)).Nodup :=
    (List.filter_sublist.map _).nodup distinct
  rw [Operation.openedFor, List.Nodup, List.pairwise_map]
  rw [List.Nodup, List.pairwise_map] at indices
  exact indices.imp fun different same => different (by rw [same])

theorem ended_iff_finished (server : SpanContext) (news : List Milestone) (table : List (Handler × SpanContext))
    (l : Ledger) (log : List (Handler × SpanContext)) (account : Account server news table l log)
    (entry : Handler × SpanContext) (member : entry ∈ log) : .ended entry.2 ∈ news ↔ l.finished entry.2 = true := by
  rw [← List.count_pos_iff, (account.spans entry member).ended]
  cases l.finished entry.2 <;> simp

theorem open_at_most_one (server : SpanContext) (news : List Milestone) (table : List (Handler × SpanContext))
    (l : Ledger) (log : List (Handler × SpanContext)) (account : Account server news table l log) (handler : Handler) :
    ((Operation.openedFor handler log).filter fun span => .ended span ∉ news).length ≤ 1 := by
  have held : ∀ span ∈ (Operation.openedFor handler log).filter fun span => .ended span ∉ news,
      (table.find? fun kept => kept.1 = handler).map (·.2) = some span := by
    intro span member
    obtain ⟨opened, open_⟩ := List.mem_filter.mp member
    have known := (opened_for_member handler log span).mp opened
    refine account.held (handler, span) known ?_
    rw [← Bool.not_eq_true, ← ended_iff_finished server news table l log account (handler, span) known]
    simpa using open_
  have distinct := (opened_for_distinct handler log account.distinct).filter fun span => .ended span ∉ news
  generalize (Operation.openedFor handler log).filter (fun span => .ended span ∉ news) = spans at held distinct
  cases spans with
  | nil => exact Nat.zero_le 1
  | cons first others =>
      cases others with
      | nil => exact Nat.le_refl 1
      | cons second rest =>
          have same := (held first (by simp)).symm.trans (held second (by simp))
          simp [Option.some.inj same] at distinct

structure StepFacts (operation : Operation) (state : Request × Telemetry) (handler : Handler)
    (opened later : List SpanContext) (news events : List Milestone) : Prop where
  history : (operation.apply state.1 state.2).2.history = state.2.history ++ events
  ends : ∀ span ∈ later, .ended span ∉ news → .ended span ∈ events →
    operation.handler? = some handler ∧ operation.completes = true
  goes_on : ∀ server, state.1.marks.wrapper? = some server → state.2.isFinished server = true →
    operation.handler? = some handler → operation.resumes state.1 = false →
      ∃ span, (∃ hook, .round hook (some span) ∈ events) ∧ (∀ m ∈ events, ∀ shown, m.shown? = some shown → shown = span) ∧
        (span ∈ opened ∧ .ended span ∉ news ∧ later = opened ∨
          (∀ kept ∈ opened, .ended kept ∈ news) ∧ later = opened ++ [span]) ∧
        (operation.completes = true → ∀ kept ∈ later, .ended kept ∈ news ++ events)

theorem accounted_step_facts (operation : Operation) (server : SpanContext) (stopped : Bool) (base news : List Milestone)
    (request : Request) (t : Telemetry) (log : List (Handler × SpanContext))
    (accounted : Accounted server stopped base news request t log) (handler : Handler) :
    ∃ events, StepFacts operation (request, t) handler (Operation.openedFor handler log)
      (Operation.openedFor handler (log ++ Operation.openings [operation] request t)) news events := by
  have account := accounted.account
  rcases leaves_or_continues operation request stopped with leaves | ⟨rfl, owner, handled, active⟩
  · obtain ⟨later, events, kept, nothing, history, silent⟩ :=
      operation_keeps_account operation server stopped base news request t log accounted leaves
    refine ⟨events, history, ?_, ?_⟩
    · intro span member _ ended
      rw [leaves_openings operation request t nothing, List.append_nil] at member
      have known := (opened_for_member handler log span).mp member
      exact absurd ended (silent span (account.spans _ known).apart)
    · intro span marked finished handled active
      have flag : stopped = true := by
        obtain rfl : span = server := Option.some.inj (marked.symm.trans
          (accounted.traced.holds request List.mem_cons_self).wrapper)
        rw [t.is_finished_ledger, Ledger.finished, accounted.traced.tally.standing] at finished
        exact finished
      rcases leaves flag with unhandled | resumes
      · exact absurd (unhandled.symm.trans handled) (by simp)
      · exact absurd (active.symm.trans resumes) (by simp)
  · obtain ⟨span, starts, opened, events, later, continues, kept⟩ :=
      operation_accounts operation server base news request t log accounted owner handled active
    rw [continues_openings operation request t server owner log span starts opened events handled continues]
    have owned : (owner, span) ∈ log ++ opened := by
      cases continues.obtained with
      | shared known _ => simpa using known
      | opened _ => simp
    refine ⟨events, continues.history, ?_, ?_⟩
    · intro other member _ ended
      obtain ⟨completes, rfl⟩ := continues.ends other ended
      have known := (opened_for_member handler _ other).mp member
      have same := account_entry server _ _ _ _ kept.account _ _ known owned rfl
      exact ⟨by rw [handled, (Prod.mk.inj same).1], completes⟩
    · intro _ _ _ handled' _
      obtain rfl : owner = handler := Option.some.inj (handled.symm.trans handled')
      refine ⟨span, continues.shows, continues.alone, ?_, ?_⟩
      · cases continues.obtained with
        | shared known running =>
            refine .inl ⟨(opened_for_member owner log span).mpr known, ?_, by simp⟩
            rw [ended_iff_finished server news _ _ log account (owner, span) known]
            simp [running]
        | opened stopped =>
            refine .inr ⟨?_, by simp [Operation.openedFor]⟩
            intro other member
            have known := (opened_for_member owner log other).mp member
            exact (ended_iff_finished server news _ _ log account (owner, other) known).mpr (stopped _ known rfl)
      · intro completes other member
        have known := (opened_for_member owner _ other).mp member
        rw [ended_iff_finished server _ _ _ _ kept.account (owner, other) known]
        cases running : (operation.apply request t).2.ledger.finished other with
        | true => rfl
        | false =>
            have found := kept.account.held (owner, other) known running
            obtain rfl : other = span := Option.some.inj (found.symm.trans continues.current)
            rw [continues.completed, completes] at running
            contradiction

theorem spanless_step_facts (operation : Operation) (base : List Milestone) (request : Request) (t : Telemetry)
    (spanless : Spanless base ⟨[request], t⟩) (handler : Handler) :
    ∃ events, StepFacts operation (request, t) handler []
      (Operation.openedFor handler (Operation.openings [operation] request t)) [] events := by
  have unmarked := spanless.unmarked request List.mem_cons_self
  have none_opened : Operation.openings [operation] request t = [] ∧
      ∃ events, (operation.apply request t).2.history = t.history ++ events := by
    rcases operation_spanless operation base ⟨[request], t⟩ 0 request spanless rfl with
      still | ⟨entering, server, news, _, traced⟩
    · have same : (operation.apply request t).2.history = t.history := still.history.trans spanless.history.symm
      refine ⟨leaves_openings operation request t ?_, [], by simpa using same⟩
      rw [Operation.starts, same, List.drop_length]
      rfl
    · refine ⟨by rw [openings_single, entering], news, traced.history.trans ?_⟩
      rw [← spanless.history]
  obtain ⟨nothing, events, history⟩ := none_opened
  refine ⟨events, history, by simp [nothing, Operation.openedFor], ?_⟩
  intro server marked
  exact absurd (unmarked.1.symm.trans marked) (by simp)

-- A continuation span is opened after the end of the server span, follows from
-- it, and belongs to one handler: the handler's operations go on with it while
-- it is open, and with the next one thereafter. A resuming operation is the
-- exception; it goes on with no span at all.
theorem continuations_belong_to_handlers (request : Request) (t : Telemetry) (operations : List Operation)
    (handler : Handler) (fresh : request.marks = .none) :
    let state := Operation.run operations (request, t)
    let log := Operation.openings operations request t
    let opened := Operation.openedFor handler log
    ∃ news, state.2.history = t.history ++ news ∧ (state.1.marks.continuations.map (·.1)).Nodup ∧
      opened.Nodup ∧ (opened.filter fun span => .ended span ∉ news).length ≤ 1 ∧
      (∀ span ∈ opened, news.count (.ended span) ≤ 1 ∧ ∃ server, state.1.marks.wrapper? = some server ∧
        [.ended server, .started span (some server) [server]].Sublist news ∧ span.trace = server.trace ∧
        Labelled state.2 server span handler) ∧
      (∀ span parent? links, .started span parent? links ∈ news →
        state.1.marks.wrapper? = some span ∨ ∃ owner, span ∈ Operation.openedFor owner log) ∧
      ∀ operation, ∃ events, StepFacts operation state handler opened
        (Operation.openedFor handler (Operation.openings (operations ++ [operation]) request t)) news events := by
  intro state log opened
  have start : Spanless t.history ⟨[request], t⟩ := ⟨rfl, by simp [fresh, Marks.none], .inl rfl⟩
  rcases run_spanless_accounted operations t.history request t start with
    ⟨spanless, nothing⟩ | ⟨server, stopped, news, accounted⟩
  · have empty : opened = [] := by simp [opened, log, nothing, Operation.openedFor]
    have bare := (spanless.unmarked state.1 List.mem_cons_self).2
    refine ⟨[], by simpa using spanless.history, by simp [state, bare], by simp [empty], by simp [empty], by simp [empty],
      by simp, ?_⟩
    intro operation
    rw [openings_append, nothing, List.nil_append, empty]
    exact spanless_step_facts operation t.history state.1 state.2 spanless handler
  · have account := accounted.account
    have marked := (accounted.traced.holds state.1 List.mem_cons_self).wrapper
    refine ⟨news, accounted.traced.history, account.keys, opened_for_distinct handler log account.distinct,
      open_at_most_one server news _ _ log account handler, ?_, ?_, ?_⟩
    · intro span member
      have known := (opened_for_member handler log span).mp member
      have continuation := account.spans (handler, span) known
      refine ⟨?_, server, marked, continuation.follows, continuation.trace, accounted.labels (handler, span) known⟩
      rw [continuation.ended]
      exact Bool.toNat_le _
    · intro span parent? links started
      rcases account.complete span parent? links started with rfl | continued
      · exact .inl marked
      · obtain ⟨entry, member, rfl⟩ := List.mem_map.mp continued
        exact .inr ⟨entry.1, (opened_for_member entry.1 log entry.2).mpr member⟩
    · intro operation
      rw [openings_append]
      exact accounted_step_facts operation server stopped t.history news state.1 state.2 log accounted handler

def orders : Handler := ⟨"shop::Orders", none⟩

def plainCoordinator : HandlerCoordinator := ⟨"main", ⟨none⟩, .empty⟩

theorem continuations_belong_to_handlers_orders :
    let operations := [.enter plainBoundary, .fail plainBoundary ⟨"out of stock", []⟩, .preHandle plainCoordinator orders]
    let completion := Operation.afterCompletion plainCoordinator none orders none
    let state := Operation.run operations (order, .start .silent false)
    ∃ span, Operation.openedFor orders (Operation.openings (operations ++ [completion]) order (.start .silent false)) =
      [span] ∧ .ended span ∈ (completion.apply state.1 state.2).2.history := by
  intro operations completion state
  obtain ⟨news, history, _, _, _, _, _, step⟩ :=
    continuations_belong_to_handlers order (.start .silent false) operations orders rfl
  obtain ⟨events, facts⟩ := step completion
  obtain ⟨span, _, _, _, ended⟩ := facts.goes_on (plainBoundary.serverSpan order (.start .silent false)) rfl rfl rfl rfl
  have opened : Operation.openedFor orders (Operation.openings (operations ++ [completion]) order (.start .silent false)) =
      [⟨1, 2, true, false, .empty⟩] := rfl
  refine ⟨_, opened, ?_⟩
  rw [facts.history, history, show (Telemetry.start .silent false).history = [] from rfl, List.nil_append]
  exact ended rfl _ (by rw [opened]; exact List.mem_cons_self)

-- A handler that has gone on asynchronously resumes after the failure: the
-- server span is finished, it has no span of its own, and it gets none. And a
-- continuation span that is not sampled does not name its handler.
theorem resuming_and_unsampled_continuations :
    let operations := [.enter plainBoundary, .asyncStarted plainCoordinator orders,
      .fail plainBoundary ⟨"out of stock", []⟩]
    let resume := Operation.preHandle plainCoordinator orders
    let state := Operation.run operations (order, .start .silent false)
    let unsampled := (Telemetry.start .silent false).attach (.of ⟨7, 7, false, true, .empty⟩)
    let failed := [.enter plainBoundary, .fail plainBoundary ⟨"out of stock", []⟩]
    (state.1.marks.wrapper?.map state.2.isFinished = some true ∧ resume.handler? = some orders ∧
      Operation.openings operations order (.start .silent false) = [] ∧
      Operation.openings (operations ++ [resume]) order (.start .silent false) = [] ∧
      (resume.apply state.1 state.2).2.history = state.2.history) ∧
    Operation.openings (failed ++ [resume]) order unsampled = [(orders, ⟨7, 2, false, false, .empty⟩)] ∧
      (Operation.run (failed ++ [resume]) (order, unsampled)).2.spans.map (·.attributes) =
        [[("span.kind", .text "server")], [("span.kind", .text "server")]] := by
  exact ⟨⟨rfl, rfl, rfl, rfl, rfl⟩, rfl, rfl⟩

end RequestSpans
