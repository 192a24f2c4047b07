import RequestSpans.Proofs.Server.Operation

set_option autoImplicit false

namespace RequestSpans

-- A request is only copied once it was entered; before that, `clone` does nothing.
inductive Act where
  | on (member : Nat) (operation : Operation)
  | clone (member : Nat)

structure Family where
  members : List Request
  telemetry : Telemetry

def Request.entered (request : Request) : Bool := request.marks.untraced || request.marks.wrapper?.isSome

def Family.put (family : Family) (member : Nat) (result : Request × Telemetry) : Family :=
  ⟨family.members.set member result.1, result.2⟩

def Act.apply : Act → Family → Family
  | .on member operation, family =>
      match family.members[member]? with
      | some request => family.put member (operation.apply request family.telemetry)
      | none => family
  | .clone member, family =>
      match family.members[member]? with
      | some request => if request.entered then { family with members := family.members ++ [request] } else family
      | none => family

def Family.run (acts : List Act) (family : Family) : Family := acts.foldl (fun family act => act.apply family) family

namespace Milestone

def started? : Milestone → Option SpanContext
  | .started span _ _ => some span
  | _ => none

def shown? : Milestone → Option SpanContext
  | .round _ span? => span?
  | .called _ _ span? => span?
  | _ => none

def isVerdict : Milestone → Bool
  | .round hook _ => hook.isVerdict
  | _ => false

end Milestone

theorem milestones_shown (chain : DecoratorChain) (hook : Hook) (span : SpanContext) (m : Milestone)
    (member : m ∈ chain.milestones hook (some span)) : m.shown? = some span := by
  simp only [DecoratorChain.milestones, List.mem_cons, List.mem_map] at member
  rcases member with rfl | ⟨decorator, _, rfl⟩ <;> rfl

theorem milestones_started (chain : DecoratorChain) (hook : Hook) (span? : Option SpanContext) (m : Milestone)
    (member : m ∈ chain.milestones hook span?) : m.started? = none := by
  simp only [DecoratorChain.milestones, List.mem_cons, List.mem_map] at member
  rcases member with rfl | ⟨decorator, _, rfl⟩ <;> rfl

theorem milestones_verdicts (chain : DecoratorChain) (hook : Hook) (span? : Option SpanContext) :
    (chain.milestones hook span?).countP Milestone.isVerdict = hook.isVerdict.toNat := by
  have calls : (chain.decorators.map fun decorator =>
      (Milestone.called decorator.name hook span?)).countP Milestone.isVerdict = 0 := by
    simp [List.countP_eq_zero, Milestone.isVerdict]
  rw [DecoratorChain.milestones, List.countP_cons, calls]
  cases verdict : hook.isVerdict <;> simp [Milestone.isVerdict, verdict]

structure Chronicle (news : List Milestone) (l : Ledger) : Prop where
  past : ∀ span, .ended span ∈ news → ∃ finished, l.standing? span = some ⟨span, finished, true⟩
  order : news.Pairwise fun earlier later => ∀ span, later.shown? = some span → earlier ≠ .ended span
  opened : ∀ m ∈ news, ∀ span, m.shown? = some span → ∃ parent? links, .started span parent? links ∈ news

namespace Chronicle

theorem none (l : Ledger) : Chronicle [] l := ⟨by simp, .nil, by simp⟩

theorem more (news events : List Milestone) (l after : Ledger) (chronicle : Chronicle news l)
    (stays : ∀ span finished, l.standing? span = some ⟨span, finished, true⟩ →
      ∃ finished, after.standing? span = some ⟨span, finished, true⟩)
    (ends : ∀ span, .ended span ∈ events → ∃ finished, after.standing? span = some ⟨span, finished, true⟩)
    (shows : ∀ m ∈ events, ∀ span, m.shown? = some span →
      (∃ finished, l.standing? span = some ⟨span, finished, false⟩) ∧ .ended span ∉ events ∧
        ∃ parent? links, .started span parent? links ∈ news) : Chronicle (news ++ events) after := by
  refine ⟨?_, ?_, ?_⟩
  · intro span ended
    rcases List.mem_append.mp ended with old | new
    · obtain ⟨finished, known⟩ := chronicle.past span old
      exact stays span finished known
    · exact ends span new
  · rw [List.pairwise_append]
    refine ⟨chronicle.order, ?_, ?_⟩
    · rw [List.pairwise_iff_forall_sublist]
      intro earlier later sublist span shown same
      have members := sublist.subset
      obtain ⟨_, silent, _⟩ := shows later (members (by simp)) span shown
      exact silent (same ▸ members (by simp))
    · intro earlier known later new span shown same
      obtain ⟨⟨finished, running⟩, _, _⟩ := shows later new span shown
      obtain ⟨_, stopped⟩ := chronicle.past span (same ▸ known)
      simp [running] at stopped
  · intro m member span shown
    rcases List.mem_append.mp member with old | new
    · obtain ⟨parent?, links, started⟩ := chronicle.opened m old span shown
      exact ⟨parent?, links, List.mem_append_left _ started⟩
    · obtain ⟨_, _, parent?, links, started⟩ := shows m new span shown
      exact ⟨parent?, links, List.mem_append_left _ started⟩

theorem round (news : List Milestone) (l : Ledger) (chronicle : Chronicle news l) (chain : DecoratorChain) (hook : Hook)
    (span : SpanContext) (finished : Bool) (running : l.standing? span = some ⟨span, finished, false⟩)
    (opened : ∃ parent? links, .started span parent? links ∈ news) :
    Chronicle (news ++ chain.milestones hook (some span)) (l.note (chain.milestones hook (some span))) := by
  refine more news _ l _ chronicle (fun span finished known => ⟨finished, known⟩) ?_ ?_
  · intro other ended
    exact absurd ended (chain.milestones_ended hook (some span) other)
  · intro m member other shown
    obtain rfl : span = other := Option.some.inj ((milestones_shown chain hook span m member).symm.trans shown)
    exact ⟨⟨finished, running⟩, chain.milestones_ended hook (some span) span, opened⟩

theorem start (news : List Milestone) (l : Ledger) (chronicle : Chronicle news l) (span : SpanContext)
    (parent? : Option SpanContext) (links : List SpanContext) :
    Chronicle (news ++ [.started span parent? links]) (l.start span parent? links) := by
  refine more news _ l _ chronicle ?_ (by simp) (by simp [Milestone.shown?])
  intro other finished known
  exact ⟨finished, Ledger.standing_start_old l span other parent? links _ known⟩

theorem refinish (news : List Milestone) (l : Ledger) (chronicle : Chronicle news l) (span : SpanContext) :
    Chronicle (news ++ [.finishing span false]) (l.note [.finishing span false]) := by
  exact more news _ l _ chronicle (fun _ finished known => ⟨finished, known⟩) (by simp) (by simp [Milestone.shown?])

theorem close (news : List Milestone) (l : Ledger) (chronicle : Chronicle news l) (span : SpanContext)
    (running : l.standing? span = some ⟨span, false, false⟩) :
    Chronicle (news ++ [.finishing span true, .ended span]) (l.close span) := by
  refine more news _ l _ chronicle ?_ ?_ (by simp [Milestone.shown?])
  · intro other finished known
    rcases Ledger.standing_close l span other _ known with same | stopped
    · exact ⟨finished, same⟩
    · exact ⟨true, stopped⟩
  · intro other ended
    obtain rfl : other = span := by simpa using ended
    exact ⟨true, Ledger.standing_close_self l other _ running⟩

end Chronicle

-- What has happened to the server span: its flag and its end go together, and
-- with the one finish that came first.
structure Tally (server : SpanContext) (stopped : Bool) (news : List Milestone) (l : Ledger) : Prop where
  standing : l.standing? server = some ⟨server, stopped, stopped⟩
  started : ∃ parent? links, .started server parent? links ∈ news
  ended : news.count (.ended server) = stopped.toNat
  finishing : news.count (.finishing server true) = stopped.toNat
  together : stopped = true → [.finishing server true, .ended server] <:+: news
  verdicts : news.countP Milestone.isVerdict ≤ stopped.toNat

namespace Tally

theorem more (server : SpanContext) (stopped : Bool) (news events : List Milestone) (l after : Ledger)
    (tally : Tally server stopped news l) (standing : after.standing? server = l.standing? server)
    (ends : .ended server ∉ events) (finishes : .finishing server true ∉ events)
    (verdicts : events.countP Milestone.isVerdict = 0) : Tally server stopped (news ++ events) after := by
  obtain ⟨parent?, links, started⟩ := tally.started
  refine ⟨standing.trans tally.standing, ⟨parent?, links, List.mem_append_left _ started⟩, ?_, ?_, ?_, ?_⟩
  · rw [List.count_append, List.count_eq_zero.mpr ends, tally.ended, Nat.add_zero]
  · rw [List.count_append, List.count_eq_zero.mpr finishes, tally.finishing, Nat.add_zero]
  · exact fun closed => (tally.together closed).trans (List.prefix_append news events).isInfix
  · rw [List.countP_append, verdicts, Nat.add_zero]
    exact tally.verdicts

theorem milestones_finishing (chain : DecoratorChain) (hook : Hook) (span? : Option SpanContext) (span : SpanContext) :
    .finishing span true ∉ chain.milestones hook span? := by
  simp [DecoratorChain.milestones]

theorem round (server : SpanContext) (stopped : Bool) (news : List Milestone) (l : Ledger) (tally : Tally server stopped news l)
    (chain : DecoratorChain) (hook : Hook) (span? : Option SpanContext) (ordinary : hook.isVerdict = false) :
    Tally server stopped (news ++ chain.milestones hook span?) (l.note (chain.milestones hook span?)) := by
  refine more server stopped news _ l _ tally rfl (chain.milestones_ended hook span? server)
    (milestones_finishing chain hook span? server) ?_
  rw [milestones_verdicts, ordinary]
  rfl

theorem close (server : SpanContext) (news rounds : List Milestone) (l : Ledger) (tally : Tally server false news l)
    (verdict : rounds = [] ∨ ∃ (chain : DecoratorChain) (hook : Hook), rounds = chain.milestones hook (some server)) :
    Tally server true (news ++ rounds ++ [.finishing server true, .ended server]) ((l.note rounds).close server) := by
  have quiet : .ended server ∉ rounds ∧ .finishing server true ∉ rounds ∧ rounds.countP Milestone.isVerdict ≤ 1 := by
    rcases verdict with rfl | ⟨chain, hook, rfl⟩
    · simp
    · refine ⟨chain.milestones_ended hook _ server, milestones_finishing chain hook _ server, ?_⟩
      rw [milestones_verdicts]
      exact Bool.toNat_le _
  obtain ⟨ends, finishes, few⟩ := quiet
  obtain ⟨parent?, links, started⟩ := tally.started
  refine ⟨Ledger.standing_close_self (l.note rounds) server _ tally.standing, ⟨parent?, links, by simp [started]⟩, ?_, ?_,
    fun _ => (List.suffix_append _ _).isInfix, ?_⟩
  · rw [List.count_append, List.count_append, List.count_eq_zero.mpr ends, tally.ended]
    simp
  · rw [List.count_append, List.count_append, List.count_eq_zero.mpr finishes, tally.finishing]
    simp
  · have before := tally.verdicts
    simp only [List.countP_append, List.countP_cons, List.countP_nil, Milestone.isVerdict, Bool.toNat_false,
      Bool.toNat_true, Bool.false_eq_true, if_false] at before ⊢
    omega

end Tally

structure Follows (server span : SpanContext) (news : List Milestone) (l : Ledger) : Prop where
  apart : span.span ≠ server.span
  tidy : l.Tidy span
  started : ∃ parent? links, .started span parent? links ∈ news

structure Holds (server : SpanContext) (stopped : Bool) (news : List Milestone) (l : Ledger) (marks : Marks) : Prop where
  wrapper : marks.wrapper? = some server
  traced : marks.untraced = false
  early : stopped = false → marks.continuations = []
  follows : ∀ entry ∈ marks.continuations, Follows server entry.2 news l

theorem follows_later (server span : SpanContext) (news events : List Milestone) (l after : Ledger)
    (follows : Follows server span news l) (keeps : ∀ span, l.Tidy span → after.Tidy span) :
    Follows server span (news ++ events) after := by
  obtain ⟨parent?, links, started⟩ := follows.started
  exact ⟨follows.apart, keeps span follows.tidy, parent?, links, List.mem_append_left _ started⟩

theorem holds_later (server : SpanContext) (stopped later : Bool) (news events : List Milestone) (l after : Ledger)
    (marks : Marks) (holds : Holds server stopped news l marks) (grows : stopped = true → later = true)
    (keeps : ∀ span, l.Tidy span → after.Tidy span) : Holds server later (news ++ events) after marks := by
  refine ⟨holds.wrapper, holds.traced, ?_, ?_⟩
  · intro open_
    apply holds.early
    cases stopped with
    | false => rfl
    | true => simp [grows rfl] at open_
  · exact fun entry member => follows_later server entry.2 news events l after (holds.follows entry member) keeps

theorem holds_keeps (server : SpanContext) (stopped : Bool) (news : List Milestone) (l : Ledger) (request next : Request)
    (holds : Holds server stopped news l request.marks) (keeps : request.Keeps next) : Holds server stopped news l next.marks := by
  refine ⟨keeps.wrapper.trans holds.wrapper, keeps.untraced.trans holds.traced, ?_, ?_⟩
  · exact fun open_ => keeps.continuations.trans (holds.early open_)
  · rw [keeps.continuations]
    exact holds.follows

structure Advance (server : SpanContext) (stopped : Bool) (news : List Milestone) (l : Ledger) (later : Bool)
    (events : List Milestone) (after : Ledger) : Prop where
  grows : stopped = true → later = true
  history : after.history = l.history ++ events
  chronicle : Chronicle (news ++ events) after
  tally : Tally server later (news ++ events) after
  keeps : ∀ span, l.Tidy span → after.Tidy span

theorem advance_trans (server : SpanContext) (stopped later last : Bool) (news events more : List Milestone)
    (l between after : Ledger) (first : Advance server stopped news l later events between)
    (second : Advance server later (news ++ events) between last more after) :
    Advance server stopped news l last (events ++ more) after := by
  refine ⟨second.grows ∘ first.grows, ?_, ?_, ?_, fun span tidy => second.keeps span (first.keeps span tidy)⟩
  · rw [second.history, first.history, List.append_assoc]
  · exact List.append_assoc news events more ▸ second.chronicle
  · exact List.append_assoc news events more ▸ second.tally

theorem advance_none (server : SpanContext) (stopped : Bool) (news : List Milestone) (l : Ledger)
    (chronicle : Chronicle news l) (tally : Tally server stopped news l) : Advance server stopped news l stopped [] l := by
  refine ⟨id, by simp, ?_, ?_, fun _ => id⟩
  · rw [List.append_nil]
    exact chronicle
  · rw [List.append_nil]
    exact tally

theorem advance_round (server : SpanContext) (stopped : Bool) (news : List Milestone) (l : Ledger)
    (chronicle : Chronicle news l) (tally : Tally server stopped news l) (chain : DecoratorChain) (hook : Hook)
    (span : SpanContext) (ordinary : hook.isVerdict = false)
    (running : l.standing? span = some ⟨span, false, false⟩) (started : ∃ parent? links, .started span parent? links ∈ news) :
    Advance server stopped news l stopped (chain.milestones hook (some span)) (l.note (chain.milestones hook (some span))) :=
  ⟨id, rfl, chronicle.round news l chain hook span false running started,
    tally.round server stopped news l chain hook (some span) ordinary, fun _ => id⟩

theorem advance_close (server : SpanContext) (news : List Milestone) (l : Ledger) (chronicle : Chronicle news l)
    (tally : Tally server true news l) (span : SpanContext) (apart : span.span ≠ server.span)
    (running : l.standing? span = some ⟨span, false, false⟩) :
    Advance server true news l true [.finishing span true, .ended span] (l.close span) := by
  have different : span ≠ server := fun same => apart (by rw [same])
  refine ⟨id, ?_, chronicle.close news l span running, ?_, fun other => l.tidy_close span other⟩
  · rw [Ledger.close_history, Ledger.closure_running l span false running]
    rfl
  · refine tally.more server true news _ l _ (l.standing_close_other span server (Ne.symm apart)) ?_ ?_ rfl
    · simp [Ne.symm different]
    · simp [Ne.symm different]

theorem advance_verdict (server : SpanContext) (news rounds : List Milestone) (l : Ledger) (chronicle : Chronicle news l)
    (tally : Tally server false news l)
    (verdict : rounds = [] ∨ ∃ (chain : DecoratorChain) (hook : Hook), rounds = chain.milestones hook (some server)) :
    Advance server false news l true (rounds ++ [.finishing server true, .ended server]) ((l.note rounds).close server) := by
  have running : (l.note rounds).standing? server = some ⟨server, false, false⟩ := tally.standing
  have noted : Chronicle (news ++ rounds) (l.note rounds) := by
    rcases verdict with rfl | ⟨chain, hook, rfl⟩
    · simpa [Ledger.note] using chronicle
    · exact chronicle.round news l chain hook server false tally.standing tally.started
  refine ⟨fun _ => rfl, ?_, ?_, ?_, fun span tidy => (l.note rounds).tidy_close server span tidy⟩
  · rw [Ledger.close_history, Ledger.closure_running _ server false running]
    simp [Ledger.note]
  · rw [← List.append_assoc]
    exact noted.close (news ++ rounds) (l.note rounds) server running
  · rw [← List.append_assoc]
    exact tally.close server news rounds l verdict

theorem advance_refinish (server : SpanContext) (stopped : Bool) (news : List Milestone) (l : Ledger)
    (chronicle : Chronicle news l) (tally : Tally server stopped news l) :
    Advance server stopped news l stopped [.finishing server false] (l.note [.finishing server false]) :=
  ⟨id, rfl, chronicle.refinish news l server, tally.more server stopped news _ l _ rfl (by simp) (by simp) rfl, fun _ => id⟩

theorem resumption_advances (server : SpanContext) (news : List Milestone) (l reached : Ledger) (handler : Handler)
    (marks : Marks) (span : SpanContext) (chronicle : Chronicle news l) (tally : Tally server true news l)
    (holds : Holds server true news l marks) (resumption : Resumption l server handler marks span reached) :
    ∃ events, Advance server true news l true events reached ∧ Follows server span (news ++ events) reached ∧
      reached.standing? span = some ⟨span, false, false⟩ := by
  cases resumption with
  | reused held running =>
      obtain ⟨entry, found, same⟩ := Option.map_eq_some_iff.mp held
      have follows := holds.follows entry (List.mem_of_find?_eq_some found)
      rw [same] at follows
      refine ⟨[], advance_none server true news l chronicle tally, ?_, l.tidy_running span follows.tidy running⟩
      exact follows_later server span news [] l l follows fun _ => id
  | opened stopped next trace =>
      have bound := l.standing_bound server _ tally.standing
      have apart : span.span ≠ server.span := by
        have last := next.2
        omega
      have known := l.standing_start_new span (some server) [server] next
      refine ⟨[.started span (some server) [server]], ⟨id, rfl, chronicle.start news l span _ _, ?_, ?_⟩, ?_, known⟩
      · refine tally.more server true news _ l _ ?_ (by simp) (by simp) rfl
        rw [tally.standing]
        exact l.standing_start_old span server _ _ _ tally.standing
      · exact fun other tidy => l.tidy_start_old span other _ _ tidy
      · exact ⟨apart, ⟨false, known⟩, some server, [server], by simp⟩

theorem continued_advances (op : Operation) (request next : Request) (server : SpanContext) (handler : Handler)
    (news : List Milestone) (l reached : Ledger) (span : SpanContext) (rounds : List Milestone)
    (chronicle : Chronicle news l) (tally : Tally server true news l) (holds : Holds server true news l request.marks)
    (continues : Continued op request server handler l next span reached rounds) :
    ∃ events,
      Advance server true news l true events
        (if op.completes then (reached.note rounds).close span else reached.note rounds) ∧
      Holds server true (news ++ events)
        (if op.completes then (reached.note rounds).close span else reached.note rounds) next.marks := by
  obtain ⟨chain, hook, ordinary, rfl⟩ := continues.round
  obtain ⟨starts, started, follows, running⟩ := resumption_advances server news l reached handler request.marks span
    chronicle tally holds continues.resumption
  have noted := advance_trans server true true true news starts _ l reached _ started
    (advance_round server true _ reached started.chronicle started.tally chain hook span ordinary running follows.started)
  have ended : ∃ events, Advance server true news l true (starts ++ events)
      (if op.completes then (reached.note (chain.milestones hook (some span))).close span
        else reached.note (chain.milestones hook (some span))) := by
    cases op.completes with
    | false => exact ⟨_, noted⟩
    | true =>
        have closed := advance_trans server true true true news _ _ l _ _ noted
          (advance_close server _ _ noted.chronicle noted.tally span follows.apart running)
        exact ⟨_, List.append_assoc starts _ _ ▸ closed⟩
  obtain ⟨events, advance⟩ := ended
  refine ⟨_, advance, continues.wrapper.trans holds.wrapper, continues.untraced.trans holds.traced, by simp, ?_⟩
  intro entry member
  rw [continues.continuations] at member
  rcases put_continuation_member _ _ _ entry member with rfl | old
  · rw [← List.append_assoc]
    refine follows_later server span _ events reached _ follows ?_
    intro other tidy
    split
    · exact Ledger.tidy_close _ span other tidy
    · exact tidy
  · exact follows_later server entry.2 news _ l _ (holds.follows entry old) advance.keeps

theorem effect_advances (op : Operation) (request next : Request) (server : SpanContext) (stopped : Bool)
    (news : List Milestone) (l after : Ledger) (chronicle : Chronicle news l) (tally : Tally server stopped news l)
    (holds : Holds server stopped news l request.marks) (effect : Effect op request l next after) :
    ∃ later events, Advance server stopped news l later events after ∧ Holds server later (news ++ events) after next.marks := by
  have still : ∀ span, request.marks.wrapper? = some span → span = server := by
    intro span marked
    exact Option.some.inj (marked.symm.trans holds.wrapper)
  have flag : ∀ value, l.finished server = value → stopped = value := by
    intro value known
    rw [← known, Ledger.finished, tally.standing]
    rfl
  cases effect with
  | rested keeps =>
      refine ⟨stopped, [], advance_none server stopped news l chronicle tally, ?_⟩
      rw [List.append_nil]
      exact holds_keeps server stopped news l request next holds keeps
  | refused unmarked _ => exact absurd (unmarked.symm.trans holds.wrapper) (by simp)
  | admitted _ _ _ _ _ unmarked _ _ _ _ => exact absurd (unmarked.symm.trans holds.wrapper) (by simp)
  | decorated span chain hook marked running keeps ordinary =>
      obtain rfl := still span marked
      obtain rfl := flag false running
      have advance := advance_round span false news l chronicle tally chain hook span ordinary tally.standing tally.started
      exact ⟨false, _, advance, holds_keeps _ _ _ _ request next
        (holds_later span false false news _ l _ request.marks holds id advance.keeps) keeps⟩
  | closed span rounds marked running keeps verdict =>
      obtain rfl := still span marked
      obtain rfl := flag false running
      have advance := advance_verdict span news rounds l chronicle tally verdict
      exact ⟨true, _, advance, holds_keeps _ _ _ _ request next
        (holds_later span false true news _ l _ request.marks holds advance.grows advance.keeps) keeps⟩
  | refinished span marked _ keeps =>
      obtain rfl := still span marked
      have advance := advance_refinish span stopped news l chronicle tally
      exact ⟨stopped, _, advance, holds_keeps _ _ _ _ request next
        (holds_later span stopped stopped news _ l _ request.marks holds id advance.keeps) keeps⟩
  | continued span handler continuation reached rounds marked finished continues =>
      obtain rfl := still span marked
      obtain rfl := flag true finished
      obtain ⟨events, advance, held⟩ := continued_advances op request next span handler news l reached continuation rounds
        chronicle tally holds continues
      exact ⟨true, events, advance, held⟩

structure Traced (server : SpanContext) (stopped : Bool) (base news : List Milestone) (family : Family) : Prop where
  history : family.telemetry.history = base ++ news
  chronicle : Chronicle news family.telemetry.ledger
  tally : Tally server stopped news family.telemetry.ledger
  holds : ∀ member ∈ family.members, Holds server stopped news family.telemetry.ledger member.marks

structure Spanless (base : List Milestone) (family : Family) : Prop where
  history : family.telemetry.history = base
  unmarked : ∀ member ∈ family.members, member.marks.wrapper? = none ∧ member.marks.continuations = []
  alone : family.members.length = 1 ∨ ∀ member ∈ family.members, member.marks.untraced = true

theorem holds_apart (server : SpanContext) (stopped : Bool) (news : List Milestone) (request : Request) (t : Telemetry)
    (tally : Tally server stopped news t.ledger) (holds : Holds server stopped news t.ledger request.marks) (span : SpanContext)
    (handler : Handler) (marked : request.marks.wrapper? = some span) (running : t.isFinished span = false) :
    request.marks.continuation? handler ≠ some span := by
  obtain rfl : span = server := Option.some.inj (marked.symm.trans holds.wrapper)
  have open_ : stopped = false := by
    rw [t.is_finished_ledger, Ledger.finished, tally.standing] at running
    exact running
  simp [Marks.continuation?, holds.early open_]

theorem act_traced (act : Act) (server : SpanContext) (stopped : Bool) (base news : List Milestone) (family : Family)
    (traced : Traced server stopped base news family) :
    ∃ later events, (stopped = true → later = true) ∧ Traced server later base (news ++ events) (act.apply family) := by
  have same : ∃ later events, (stopped = true → later = true) ∧ Traced server later base (news ++ events) family :=
    ⟨stopped, [], id, by rw [List.append_nil]; exact traced⟩
  cases act with
  | clone member =>
      simp only [Act.apply]
      cases found : family.members[member]? with
      | none => exact same
      | some request =>
          dsimp only
          split
          · refine ⟨stopped, [], id, ?_⟩
            rw [List.append_nil]
            refine ⟨traced.history, traced.chronicle, traced.tally, ?_⟩
            intro other known
            rcases List.mem_append.mp known with old | new
            · exact traced.holds other old
            · rw [List.mem_singleton.mp new]
              exact traced.holds request (List.mem_of_getElem? found)
          · exact same
  | on member operation =>
      simp only [Act.apply]
      cases found : family.members[member]? with
      | none => exact same
      | some request =>
          have holds := traced.holds request (List.mem_of_getElem? found)
          have effect := operation.effect request family.telemetry fun span handler =>
            holds_apart server stopped news request family.telemetry traced.tally holds span handler
          obtain ⟨later, events, advance, held⟩ :=
            effect_advances operation request _ server stopped news _ _ traced.chronicle traced.tally holds effect
          refine ⟨later, events, advance.grows, ?_, advance.chronicle, advance.tally, ?_⟩
          · exact (advance.history.trans (congrArg (· ++ events) traced.history)).trans (List.append_assoc ..)
          · intro other known
            rcases List.mem_or_eq_of_mem_set known with old | rfl
            · exact holds_later server stopped later news events _ _ other.marks (traced.holds other old) advance.grows
                advance.keeps
            · exact held

theorem run_traced (acts : List Act) (server : SpanContext) (stopped : Bool) (base news : List Milestone) (family : Family)
    (traced : Traced server stopped base news family) :
    ∃ later events, (stopped = true → later = true) ∧ Traced server later base (news ++ events) (family.run acts) := by
  induction acts generalizing stopped news family with
  | nil => exact ⟨stopped, [], id, by rw [List.append_nil]; exact traced⟩
  | cons act rest ih =>
      obtain ⟨between, events, grows, stepped⟩ := act_traced act server stopped base news family traced
      obtain ⟨later, more, grows', ran⟩ := ih between (news ++ events) (act.apply family) stepped
      exact ⟨later, events ++ more, grows' ∘ grows, List.append_assoc news events more ▸ ran⟩

theorem admitted_traced (request : Request) (l : Ledger) (span : SpanContext) (parent? : Option SpanContext)
    (chain : DecoratorChain) (hook : Hook) (undecided : request.marks.untraced = false)
    (bare : request.marks.continuations = []) (next : l.Next span) (ordinary : hook.isVerdict = false) :
    let news := .started span parent? [] :: chain.milestones hook (some span)
    let after := (l.start span parent? []).note (chain.milestones hook (some span))
    after.history = l.history ++ news ∧ Chronicle news after ∧ Tally span false news after ∧
      Holds span false news after (request.withServer span).marks := by
  have known := l.standing_start_new span parent? [] next
  have started : ∃ above links, Milestone.started span above links ∈ [Milestone.started span parent? []] :=
    ⟨parent?, [], List.mem_singleton_self _⟩
  have chronicle : Chronicle [.started span parent? []] (l.start span parent? []) :=
    (Chronicle.none l).start [] l span parent? []
  have tally : Tally span false [.started span parent? []] (l.start span parent? []) :=
    ⟨known, started, by simp, by simp, by simp, by simp [Milestone.isVerdict]⟩
  have advance := advance_round span false _ _ chronicle tally chain hook span ordinary known started
  refine ⟨?_, advance.chronicle, advance.tally, rfl, undecided, fun _ => bare, ?_⟩
  · rw [advance.history, Ledger.start, List.append_assoc]
    rfl
  · simp [Request.withServer, bare]

theorem spanless_put (base : List Milestone) (family : Family) (member : Nat) (request next : Request) (t : Telemetry)
    (spanless : Spanless base family) (found : family.members[member]? = some request)
    (same : t.history = family.telemetry.history)
    (unmarked : next.marks.wrapper? = none ∧ next.marks.continuations = [])
    (decided : request.marks.untraced = true → next.marks.untraced = true) : Spanless base (family.put member (next, t)) := by
  refine ⟨same.trans spanless.history, ?_, spanless.alone.imp (by simp [Family.put]) fun all => ?_⟩
  · intro other known
    rcases List.mem_or_eq_of_mem_set known with old | rfl
    · exact spanless.unmarked other old
    · exact unmarked
  · intro other known
    rcases List.mem_or_eq_of_mem_set known with old | rfl
    · exact all other old
    · exact decided (all request (List.mem_of_getElem? found))

theorem spanless_clone (base : List Milestone) (family : Family) (member : Nat) (request : Request)
    (spanless : Spanless base family) (found : family.members[member]? = some request)
    (entered : request.entered = true) : Spanless base { family with members := family.members ++ [request] } := by
  have unmarked := spanless.unmarked request (List.mem_of_getElem? found)
  have decided : request.marks.untraced = true := by simpa [Request.entered, unmarked.1] using entered
  have all : ∀ other ∈ family.members, other.marks.untraced = true := by
    rcases spanless.alone with one | all
    · obtain ⟨only, members⟩ := List.length_eq_one_iff.mp one
      have same : request = only := by simpa [members] using List.mem_of_getElem? found
      simpa [members, ← same] using decided
    · exact all
  refine ⟨spanless.history, ?_, .inr ?_⟩
  · simpa [or_imp, forall_and] using ⟨⟨fun other old => (spanless.unmarked other old).1, unmarked.1⟩,
      fun other old => (spanless.unmarked other old).2, unmarked.2⟩
  · simpa [or_imp, forall_and] using ⟨all, decided⟩

theorem operation_spanless (operation : Operation) (base : List Milestone) (family : Family) (member : Nat)
    (request : Request) (spanless : Spanless base family) (found : family.members[member]? = some request) :
    Spanless base (family.put member (operation.apply request family.telemetry)) ∨
      operation.handler? = none ∧ ∃ server news,
        (∀ span parent? links, .started span parent? links ∈ news → span = server) ∧
        Traced server false base news (family.put member (operation.apply request family.telemetry)) := by
  have unmarked := spanless.unmarked request (List.mem_of_getElem? found)
  have effect := operation.effect request family.telemetry (by simp [unmarked.1])
  generalize operation.apply request family.telemetry = result at effect ⊢
  obtain ⟨next, t⟩ := result
  generalize ledger : t.ledger = after at effect
  cases effect with
  | rested keeps =>
      refine .inl (spanless_put base family member request next t spanless found (congrArg Ledger.history ledger) ?_ ?_)
      · exact ⟨keeps.wrapper.trans unmarked.1, keeps.continuations.trans unmarked.2⟩
      · exact keeps.untraced.trans
  | refused _ decided =>
      refine .inl (spanless_put base family member request next t spanless found (congrArg Ledger.history ledger) ?_ ?_)
      · rw [decided]
        exact unmarked
      · exact fun _ => by rw [decided]
  | admitted span parent? chain hook entering _ undecided fresh travels ordinary =>
      obtain ⟨history, chronicle, tally, holds⟩ :=
        admitted_traced request _ span parent? chain hook undecided unmarked.2 fresh ordinary
      rw [← ledger] at history chronicle tally holds
      have only : family.members = [request] := by
        rcases spanless.alone with one | all
        · obtain ⟨only, members⟩ := List.length_eq_one_iff.mp one
          have same : request = only := by simpa [members] using List.mem_of_getElem? found
          rw [members, same]
        · simp [all request (List.mem_of_getElem? found)] at undecided
      refine .inr ⟨entering, span, _, ?_, history.trans (congrArg (· ++ _) spanless.history), chronicle, tally, ?_⟩
      · intro other above links started
        rcases List.mem_cons.mp started with first | round
        · exact (Milestone.started.inj first).1
        · simpa [Milestone.started?] using milestones_started chain hook _ _ round
      · intro other known
        have same : other = next := by
          have first : member = 0 := by
            have bound := (List.getElem?_eq_some_iff.mp found).1
            simpa [only] using bound
          simpa [Family.put, only, first] using known
        rw [same, show next = request.withServer span from travels]
        exact holds
  | decorated span _ _ marked _ _ _ => exact absurd (unmarked.1.symm.trans marked) (by simp)
  | closed span _ marked _ _ _ => exact absurd (unmarked.1.symm.trans marked) (by simp)
  | refinished span marked _ _ => exact absurd (unmarked.1.symm.trans marked) (by simp)
  | continued span _ _ _ _ marked _ _ => exact absurd (unmarked.1.symm.trans marked) (by simp)

theorem act_spanless (act : Act) (base : List Milestone) (family : Family) (spanless : Spanless base family) :
    Spanless base (act.apply family) ∨ ∃ server news, Traced server false base news (act.apply family) := by
  cases act with
  | clone member =>
      simp only [Act.apply]
      cases found : family.members[member]? with
      | none => exact .inl spanless
      | some request =>
          dsimp only
          split
          · rename_i entered
            exact .inl (spanless_clone base family member request spanless found entered)
          · exact .inl spanless
  | on member operation =>
      simp only [Act.apply]
      cases found : family.members[member]? with
      | none => exact .inl spanless
      | some request =>
          rcases operation_spanless operation base family member request spanless found with still | ⟨_, server, news, _, traced⟩
          · exact .inl still
          · exact .inr ⟨server, news, traced⟩

theorem run_spanless (acts : List Act) (base : List Milestone) (family : Family) (spanless : Spanless base family) :
    Spanless base (family.run acts) ∨ ∃ server stopped news, Traced server stopped base news (family.run acts) := by
  induction acts generalizing family with
  | nil => exact .inl spanless
  | cons act rest ih =>
      rcases act_spanless act base family spanless with still | ⟨server, news, traced⟩
      · exact ih (act.apply family) still
      · obtain ⟨stopped, events, _, ran⟩ := run_traced rest server false base news (act.apply family) traced
        exact .inr ⟨server, stopped, _, ran⟩

-- Whatever boundaries, coordinators and stray finishes do to a request and its
-- copies: `over` is both the flag of the wrapper and the end of the span.
theorem copies_share_one_ending (request : Request) (t : Telemetry) (acts : List Act) (fresh : request.marks = .none) :
    let family := Family.run acts ⟨[request], t⟩
    ∃ news, family.telemetry.history = t.history ++ news ∧ news.countP Milestone.isVerdict ≤ 1 ∧
      (news.Pairwise fun earlier later => ∀ span, later.shown? = some span → earlier ≠ .ended span) ∧
      (∀ m ∈ news, ∀ span, m.shown? = some span → ∃ parent? links, .started span parent? links ∈ news) ∧
      ∀ member ∈ family.members, ∀ server, member.marks.wrapper? = some server →
        (∀ other ∈ family.members, other.marks.wrapper? = some server) ∧
          ∃ stopped, family.telemetry.ledger.standing? server = some ⟨server, stopped, stopped⟩ ∧
            news.count (.ended server) = stopped.toNat ∧ news.count (.finishing server true) = stopped.toNat ∧
            (stopped = true → [.finishing server true, .ended server] <:+: news) ∧
            ∀ later, stopped = true →
              (family.run later).telemetry.ledger.standing? server = some ⟨server, true, true⟩ := by
  intro family
  have start : Spanless t.history ⟨[request], t⟩ := ⟨rfl, by simp [fresh, Marks.none], .inl rfl⟩
  rcases run_spanless acts t.history ⟨[request], t⟩ start with spanless | ⟨server, stopped, news, traced⟩
  · refine ⟨[], by simpa using spanless.history, by simp, .nil, by simp, ?_⟩
    intro member known server marked
    exact absurd ((spanless.unmarked member known).1.symm.trans marked) (by simp)
  · have few := Nat.le_trans traced.tally.verdicts (Bool.toNat_le stopped)
    refine ⟨news, traced.history, few, traced.chronicle.order, traced.chronicle.opened, ?_⟩
    intro member known span marked
    obtain rfl : span = server := Option.some.inj (marked.symm.trans (traced.holds member known).wrapper)
    refine ⟨fun other member => (traced.holds other member).wrapper, stopped, traced.tally.standing, traced.tally.ended,
      traced.tally.finishing, traced.tally.together, ?_⟩
    intro later closed
    obtain ⟨still, events, grows, ran⟩ := run_traced later span stopped t.history news family traced
    rw [ran.tally.standing, grows closed]

theorem copies_share_one_ending_order :
    let server := plainBoundary.serverSpan order (.start .silent false)
    let acts := [.on 0 (.enter plainBoundary), .clone 0, .on 1 (.complete plainBoundary ⟨.ok, ⟨[]⟩, ""⟩),
      .on 0 (.fail plainBoundary ⟨"out of stock", []⟩), .on 0 .finish, .on 1 .finish]
    let family := Family.run acts ⟨[order], .start .silent false⟩
    family.members = [order.withServer server, order.withServer server] ∧
      ∃ news, family.telemetry.history = news ∧ news.countP Milestone.isVerdict ≤ 1 ∧ news.count (.ended server) = 1 := by
  intro server acts family
  obtain ⟨news, history, few, _, _, endings⟩ := copies_share_one_ending order (.start .silent false) acts rfl
  have members : family.members = [order.withServer server, order.withServer server] := rfl
  have closed : family.telemetry.ledger.standing? server = some ⟨server, true, true⟩ := rfl
  obtain ⟨_, stopped, standing, ended, _⟩ := endings (order.withServer server) (by rw [members]; exact List.mem_cons_self) server rfl
  have flag : stopped = true := by simpa [closed] using (standing.symm.trans closed)
  exact ⟨members, news, history, few, by rw [ended, flag]; rfl⟩

end RequestSpans
