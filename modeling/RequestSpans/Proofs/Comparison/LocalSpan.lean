import RequestSpans.LocalSpan
import RequestSpans.Proofs.Comparison.Client

set_option autoImplicit false

namespace RequestSpans

def LocalSpan.stakes (span : LocalSpan) : List Stake := .localSpans :: span.tracer?.toList.map Stake.tracer

namespace Pairing

variable {P : Pairing} {w : P.World} {t u : Telemetry} {span : LocalSpan}

structure Localizes (P : Pairing) (w : P.World) (t : Telemetry) (span : LocalSpan) : Prop where
  headed : P.heads span.attributes
  covered : P.Covers w t span.stakes

theorem localizes_moves {t' u' : Telemetry} (moves : P.Moves w t u t' u') (localizes : P.Localizes w t span) :
    P.Localizes w t' span := ⟨localizes.headed, covers_moves moves localizes.covered⟩

theorem localizes_tracer (localizes : P.Localizes w t span) {tracer : SpanContext} (started : span.tracer? = some tracer) :
    P.covers w t (.tracer tracer) := localizes.covered _ (by simp [LocalSpan.stakes, started])

theorem localizes_allowed (localizes : P.Localizes w t span) : P.covers w t .localSpans :=
  localizes.covered _ List.mem_cons_self

theorem moves_started (localizes : P.Localizes w t span) (rel : P.rel w t u) :
    (span.started t).1 = (span.started u).1 ∧ P.Moves w t u (span.started t).2 (span.started u).2 ∧
      P.Localizes w (span.started t).2 (span.started t).1 := by
  by_cases first : (u.bridged && span.tracer?.isNone) = true
  · obtain ⟨bridged, unstarted⟩ := Bool.and_eq_true_iff.mp first
    have bridged' : t.bridged = true := (P.bridged rel).trans bridged
    obtain ⟨same, started, _⟩ := moves_start "request" .internal span.parent span.attributes [] rel
    have traced := P.startLocal "request" .internal span.parent span.attributes [] rel bridged' (localizes_allowed localizes)
      localizes.headed
    have begins : ∀ t : Telemetry, t.bridged = true → span.started t =
        ({ span with tracer? := some (t.nextContext span.parent) },
          (t.startSpan "request" .internal span.parent span.attributes []).2) := by
      intro t bridged
      simp only [LocalSpan.started, bridged, unstarted, Bool.and_true, if_true]
      rfl
    rw [begins t bridged', begins u bridged, ← same]
    refine ⟨rfl, started, localizes.headed, ?_⟩
    intro stake member
    simp only [LocalSpan.stakes, Option.toList_some, List.map_cons, List.map_nil, List.mem_cons, List.not_mem_nil,
      or_false] at member
    rcases member with rfl | rfl
    · exact started.keeps _ (localizes_allowed localizes)
    · exact traced
  · have rests : ∀ t : Telemetry, t.bridged = u.bridged → span.started t = (span, t) := by
      intro t same
      have again : (t.bridged && span.tracer?.isNone) = false := by
        rw [same]
        exact eq_false_of_ne_true first
      simp only [LocalSpan.started, again, Bool.false_eq_true, if_false]
    rw [rests t (P.bridged rel), rests u rfl]
    exact ⟨rfl, moves_self rel, localizes⟩

structure Enters (P : Pairing) (w : P.World) (t u : Telemetry) (span : LocalSpan) : Prop where
  same : (span.enter t).1 = (span.enter u).1
  rel : P.rel w (span.enter t).2 (span.enter u).2
  keeps : ∀ stake, P.covers w t stake → P.covers w (span.enter t).2 stake
  localizes : P.Localizes w (span.enter t).2 (span.enter t).1
  current : t.current = u.current → (span.enter t).2.current = (span.enter u).2.current
  leaves : ∀ t' u', P.Moves w (span.enter t).2 (span.enter u).2 t' u' →
    P.Moves w t u ((span.enter t).1.exit t') ((span.enter u).1.exit u')

theorem enter_started (span : LocalSpan) (t : Telemetry) :
    span.enter t = match (span.started t).1.tracer? with
      | some tracer => ((span.started t).1,
          { (span.started t).2.attach (.of tracer) with entered := tracer :: (span.started t).2.entered })
      | none => span.started t := by
  unfold LocalSpan.enter
  rcases span.started t with ⟨⟨parent, attributes, none_ | tracer⟩, later⟩ <;> rfl

theorem moves_entering (localizes : P.Localizes w t span) (rel : P.rel w t u) : P.Enters w t u span := by
  obtain ⟨same, started, localized⟩ := moves_started localizes rel
  cases tracer? : (span.started t).1.tracer? with
  | none =>
      have inside : span.enter t = span.started t := by rw [enter_started, tracer?]
      have inside' : span.enter u = span.started u := by rw [enter_started, ← same, tracer?]
      refine ⟨?_, ?_, ?_, ?_, ?_, ?_⟩
      all_goals rw [inside]
      · rw [inside']
        exact same
      · rw [inside']
        exact started.rel
      · exact started.keeps
      · exact localized
      · rw [inside']
        exact moves_current started
      · intro t' u' moves
        rw [inside'] at moves ⊢
        rw [LocalSpan.exit, LocalSpan.exit, ← same, tracer?]
        exact moves_trans started moves
  | some tracer =>
      have traced := localizes_tracer localized tracer?
      have inside : span.enter t = ((span.started t).1,
          { (span.started t).2.attach (.of tracer) with entered := tracer :: (span.started t).2.entered }) := by
        rw [enter_started, tracer?]
      have inside' : span.enter u = ((span.started t).1,
          { (span.started u).2.attach (.of tracer) with entered := tracer :: (span.started u).2.entered }) := by
        rw [enter_started, ← same, tracer?]
      have grows : (span.started t).2.Grows
          { (span.started t).2.attach (.of tracer) with entered := tracer :: (span.started t).2.entered } :=
        Telemetry.grows_same _ _ rfl
      have keeps : ∀ stake, P.covers w t stake → P.covers w (span.enter t).2 stake := by
        intro stake covered
        rw [inside]
        exact P.lasts grows (started.keeps stake covered)
      refine ⟨by rw [inside, inside'], by rw [inside, inside']; exact P.enter started.rel traced, keeps, ?_, ?_, ?_⟩
      · rw [inside]
        exact ⟨localized.headed, fun stake member => P.lasts grows (localized.covered stake member)⟩
      · rw [inside, inside']
        exact fun _ => rfl
      · intro t' u' moves
        have exits : ∀ later, (span.started t).1.exit later = { later.detach with entered := later.entered.tail } := by
          intro later
          rw [LocalSpan.exit, tracer?]
        rw [inside, inside'] at moves ⊢
        rw [exits, exits]
        refine ⟨P.exit moves.rel, fun stake covered => ?_, ?_, ?_⟩
        · exact P.lasts (Telemetry.grows_same t' _ rfl) (moves.keeps stake (P.lasts grows (started.keeps stake covered)))
        · change t'.ambient.tail = t.ambient
          rw [moves.left, ← started.left]
          rfl
        · change u'.ambient.tail = u.ambient
          rw [moves.right, ← started.right]
          rfl

theorem covers_exit (span : LocalSpan) {mine : List Stake} (covered : P.Covers w t mine) : P.Covers w (span.exit t) mine := by
  refine fun stake member => P.lasts (Telemetry.grows_same t (span.exit t) ?_) (covered stake member)
  rw [LocalSpan.exit]
  cases span.tracer? <;> rfl

theorem moves_local_act (actions : List SpanAction) (localizes : P.Localizes w t span) (rel : P.rel w t u) :
    P.Moves w t u (span.act actions t) (span.act actions u) := by
  cases tracer? : span.tracer? with
  | none =>
      simp only [LocalSpan.act, tracer?]
      exact moves_self rel
  | some tracer =>
      simp only [LocalSpan.act, tracer?]
      exact moves_act actions rel (.inr (localizes_tracer localizes tracer?))

def notes (component : String) (request : Request) : List (String × String) :=
  [("component", component), ("http.method", request.method),
    ("http.url", Target.absoluteUrl request.uri request.headers), ("http.flavor", request.version.flavor)]

def opened (component : String) (request : Request) (t : Telemetry) : LocalSpan :=
  ⟨request.marks.active?.getD t.current, (notes component request).map fun (k, v) => (k, .text v), none⟩

theorem open_for_opened (level : LogLevel) (component : String) (request : Request) (t : Telemetry) :
    LocalSpan.openFor level component request t =
      (opened component request t,
        if (request.marks.active?.isSome && !t.bridged) = true then
          (t.record (.localOpened level (("otel.kind", "internal") :: notes component request))).log .debug
            "request span not joined to the server span" [("error", "OpenTelemetry layer not found")]
        else t.record (.localOpened level (("otel.kind", "internal") :: notes component request))) := by
  by_cases unjoined : (request.marks.active?.isSome && !t.bridged) = true
  · rw [if_pos unjoined]
    exact if_pos unjoined
  · rw [if_neg unjoined]
    exact if_neg unjoined

theorem moves_open_for (level : LogLevel) (component : String) (request : Request) (rel : P.rel w t u)
    (allowed : P.covers w t .localSpans) (here : request.marks.active? = none → t.current = u.current) :
    (LocalSpan.openFor level component request t).1 = (LocalSpan.openFor level component request u).1 ∧
      P.Moves w t u (LocalSpan.openFor level component request t).2 (LocalSpan.openFor level component request u).2 ∧
      P.Localizes w (LocalSpan.openFor level component request t).2 (LocalSpan.openFor level component request t).1 := by
  have noted := moves_record (.localOpened level (("otel.kind", "internal") :: notes component request)) rel (by simp)
  have localizes : ∀ t' u', P.Moves w t u t' u' → P.Localizes w t' (opened component request t) := by
    intro t' u' moves
    refine ⟨P.headed _ _, fun stake member => ?_⟩
    obtain rfl := List.mem_singleton.mp member
    exact moves.keeps _ allowed
  have parent : request.marks.active?.getD t.current = request.marks.active?.getD u.current := by
    cases active : request.marks.active? with
    | none => exact here active
    | some context => rfl
  have same : opened component request t = opened component request u := by rw [opened, opened, parent]
  rw [open_for_opened, open_for_opened, P.bridged rel, ← same]
  split
  · have moves := moves_trans noted (moves_log .debug "request span not joined to the server span"
      [("error", "OpenTelemetry layer not found")] noted.rel)
    exact ⟨rfl, moves, localizes _ _ moves⟩
  · exact ⟨rfl, noted, localizes _ _ noted⟩

theorem moves_note (field value : String) (action : SpanAction) (localizes : P.Localizes w t span) (rel : P.rel w t u) :
    P.Moves w t u (span.act [action] (t.record (.localRecorded field value)))
      (span.act [action] (u.record (.localRecorded field value))) := by
  have recorded := moves_record (.localRecorded field value) rel (by simp)
  exact moves_trans recorded (moves_local_act [action] (localizes_moves recorded localizes) recorded.rel)

theorem moves_on_response (level : LogLevel) (latency : String) (status : Status) (localizes : P.Localizes w t span)
    (rel : P.rel w t u) :
    P.Moves w t u (span.onResponse level latency status t) (span.onResponse level latency status u) := by
  have noted : ∀ (code : String) (mark : SpanStatus),
      let step := fun t : Telemetry => span.act [.tag ("http.status_code", .text (toString status.code))]
        ((span.act [.status mark] (t.record (.localRecorded "otel.status_code" code))).record
          (.localRecorded "http.status_code" (toString status.code)))
      P.Moves w t u ((step t).log level "finished processing request" [("latency", latency), ("status", toString status.code)])
        ((step u).log level "finished processing request" [("latency", latency), ("status", toString status.code)]) := by
    intro code mark step
    have marked := moves_note "otel.status_code" code (.status mark) localizes rel
    have tagged := moves_trans marked (moves_note "http.status_code" (toString status.code)
      (.tag ("http.status_code", .text (toString status.code))) (localizes_moves marked localizes) marked.rel)
    exact moves_trans tagged (moves_log _ _ _ tagged.rel)
  by_cases failed : status.isServerError = true
  · simpa only [LocalSpan.onResponse, if_pos failed] using noted "ERROR" (.error "")
  · simpa only [LocalSpan.onResponse, if_neg failed] using noted "OK" .ok

theorem moves_local_close (localizes : P.Localizes w t span) (rel : P.rel w t u) :
    P.Moves w t u (span.close t) (span.close u) := by
  have noted := moves_record .localClosed rel (by simp)
  obtain ⟨same, started, localized⟩ := moves_started (localizes_moves noted localizes) noted.rel
  have moves := moves_trans noted started
  rw [LocalSpan.close, LocalSpan.close]
  dsimp only
  rw [← same]
  cases tracer? : (span.started (t.record .localClosed)).1.tracer? with
  | none => exact moves
  | some tracer => exact moves_trans moves (moves_end moves.rel (.inr (localizes_tracer localized tracer?)))

theorem moves_leave {t' u' : Telemetry} {stakes : List Stake} (enters : P.Enters w t u span)
    (inside : P.Moves w (span.enter t).2 (span.enter u).2 t' u') (covered : P.Covers w t' stakes) :
    P.Moves w t u ((span.enter t).1.close ((span.enter t).1.exit t')) ((span.enter u).1.close ((span.enter u).1.exit u')) ∧
      P.Covers w ((span.enter t).1.close ((span.enter t).1.exit t')) stakes := by
  have left := enters.leaves t' u' inside
  have own := covers_exit (span.enter t).1 (covers_moves inside enters.localizes.covered)
  have closed := moves_local_close ⟨enters.localizes.headed, own⟩ left.rel
  rw [← enters.same] at left closed ⊢
  exact ⟨moves_trans left closed, covers_moves closed (covers_exit (span.enter t).1 covered)⟩

end Pairing

end RequestSpans
