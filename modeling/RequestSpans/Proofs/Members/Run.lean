import RequestSpans.Proofs.Members.Twins

/-!
A family of requests and calls goes through its turns in any order, on whatever threads. Each of its
members owns the spans that were started in its turns, and only these are changed there; so it gets
the answers that it gets alone, as long as the context that is current where it opens something is
the same.
-/
set_option autoImplicit false

namespace RequestSpans.Members

def division (owners : List Nat) (k : Nat) (t u : Telemetry) (plain : Bool) : Division where
  foreign index := index < t.spans.length ∧ owners[index]? ≠ some k
  before := t.spans
  settings := t.settings
  low _ foreign := foreign.1
  pool := t.journal
  alone := u.journal
  plain := plain

def Provided (owners : List Nat) (k : Nat) (t : Telemetry) (m n : Member) : Prop :=
  ∃ plain mine, Twins mine m n ∧ apart.Covers (division owners k t t plain) t mine

structure Alongside (owners : List Nat) (k : Nat) (t u : Telemetry) : Prop where
  settings : t.settings = u.settings
  fewer : u.spans.length ≤ t.spans.length
  own : ∀ index : Nat, owners[index]? = some k → t.spans[index]? = u.spans[index]?

structure Kept (pool : Pool) : Prop where
  all : pool.owners.length = pool.telemetry.spans.length
  provided : ∀ k m, pool.members[k]? = some m → Provided pool.owners k pool.telemetry m m

section Owners

variable {owners : List Nat} {k : Nat} {t t' u : Telemetry}

theorem drawn_length (k : Nat) (grown : owners.length ≤ t.spans.length) : (drawn owners k t).length = t.spans.length := by
  simp only [drawn, List.length_append, List.length_replicate]
  omega

theorem drawn_old (k : Nat) {index : Nat} (old : index < owners.length) : (drawn owners k t)[index]? = owners[index]? :=
  List.getElem?_append_left old

theorem drawn_new (k : Nat) {index : Nat} (new : owners.length ≤ index) (begun : index < t.spans.length) :
    (drawn owners k t)[index]? = some k := by
  rw [drawn, List.getElem?_append_right new, List.getElem?_replicate_of_lt (by omega)]

theorem drawn_other {j : Nat} (other : j ≠ k) {index : Nat} (owned : (drawn owners j t)[index]? = some k) :
    owners[index]? = some k := by
  by_cases old : index < owners.length
  · exact (drawn_old j old).symm.trans owned
  · rw [drawn, List.getElem?_append_right (by omega), List.getElem?_replicate] at owned
    split at owned
    · exact absurd (Option.some.inj owned) other
    · contradiction

theorem known_begun {span : SpanContext} {record : Span} (known : t.span? span = some record) :
    span.span - 1 < t.spans.length :=
  (List.getElem?_eq_some_iff.mp (t.span_known span record known).2.2).1

theorem own_begun {plain : Bool} {index : Nat} (begun : index < t.spans.length)
    (own : ¬ (division owners k t u plain).foreign index) : owners[index]? = some k := by
  by_cases same : owners[index]? = some k
  · exact same
  · exact absurd ⟨begun, same⟩ own

theorem covers_moved {d e : Division} {mine : List Stake} (covered : apart.Covers d t mine) (plain : e.plain = d.plain)
    (owned : ∀ span, d.Owns t span → e.Owns t' span) : apart.Covers e t' mine := by
  intro stake member
  have covers := covered stake member
  cases stake with
  | span span => exact owned span covers
  | tracer tracer => exact ⟨plain.trans covers.1, owned tracer covers.2⟩
  | localSpans => exact plain.trans covers
  | missing => exact plain.trans covers

theorem covers_spans {spans : List SpanContext} {plain : Bool} (other : Bool)
    (covered : apart.Covers (division owners k t t plain) t (spans.map Stake.span)) :
    apart.Covers (division owners k t t other) t (spans.map Stake.span) := by
  intro stake member
  obtain ⟨span, _, rfl⟩ := List.mem_map.mp member
  exact covered _ member

theorem owns_drawn {plain : Bool} {span : SpanContext} (all : owners.length = t.spans.length)
    (owned : (division owners k t u plain).Owns t' span) :
    (division (drawn owners k t') k t' t' plain).Owns t' span := by
  obtain ⟨⟨record, known⟩, own⟩ := owned
  refine ⟨⟨record, known⟩, fun foreign => ?_⟩
  have begun := known_begun known
  by_cases old : span.span - 1 < owners.length
  · exact own ⟨all ▸ old, fun same => foreign.2 ((drawn_old k old).trans same)⟩
  · exact foreign.2 (drawn_new k (Nat.le_of_not_lt old) begun)

theorem owns_waiting {j : Nat} {plain : Bool} {span : SpanContext} (all : owners.length = t.spans.length)
    (still : ∀ index : Nat, owners[index]? = some k → t'.spans[index]? = t.spans[index]?)
    (owned : (division owners k t t plain).Owns t span) :
    (division (drawn owners j t') k t' t' plain).Owns t' span := by
  obtain ⟨⟨record, known⟩, own⟩ := owned
  have begun := known_begun known
  have mine := own_begun begun own
  refine ⟨⟨record, ?_⟩, fun foreign => foreign.2 ((drawn_old j (all ▸ begun)).trans mine)⟩
  obtain ⟨own, nonzero, here⟩ := t.span_known span record known
  simpa [Telemetry.span?, own, nonzero, still _ mine] using here

theorem provided_waiting {j : Nat} {m n : Member} (all : owners.length = t.spans.length)
    (still : ∀ index : Nat, owners[index]? = some k → t'.spans[index]? = t.spans[index]?)
    (provided : Provided owners k t m n) : Provided (drawn owners j t') k t' m n := by
  obtain ⟨plain, mine, twins, covered⟩ := provided
  exact ⟨plain, mine, twins, covers_moved covered rfl fun span => owns_waiting all still⟩

theorem alongside_waiting {j : Nat} (other : j ≠ k) (settings : t'.settings = t.settings)
    (grown : t.spans.length ≤ t'.spans.length)
    (still : ∀ index : Nat, owners[index]? = some k → t'.spans[index]? = t.spans[index]?) (along : Alongside owners k t u) :
    Alongside (drawn owners j t') k t' u := by
  refine ⟨settings.trans along.settings, Nat.le_trans along.fewer grown, fun index owned => ?_⟩
  have mine := drawn_other other owned
  exact (still index mine).trans (along.own index mine)

theorem alongside_self (owners : List Nat) (k : Nat) (t : Telemetry) : Alongside owners k t t :=
  ⟨rfl, Nat.le_refl _, fun _ _ => rfl⟩

theorem reserve_self (t : Telemetry) : t.reserve t.spans.length t.traces = t := by
  simp [Telemetry.reserve]

theorem reserve_length {spans : Nat} (traces : Nat) (fewer : u.spans.length ≤ spans) :
    (u.reserve spans traces).spans.length = spans := by
  simp only [Telemetry.reserve, List.length_append, List.length_replicate]
  omega

theorem records_turn (plain : Bool) (along : Alongside owners k t u) :
    Telemetry.Records (division owners k t u plain).Beside t (u.reserve t.spans.length t.traces) := by
  intro index
  have length := reserve_length t.traces along.fewer
  by_cases begun : index < t.spans.length
  · rw [List.getElem?_eq_getElem begun, List.getElem?_eq_getElem (Nat.lt_of_lt_of_eq begun length.symm)]
    refine .some ⟨fun _ => List.getElem?_eq_getElem begun, fun own => ?_⟩
    have found := along.own index (own_begun begun own)
    rw [List.getElem?_eq_getElem begun] at found
    obtain ⟨short, value⟩ := List.getElem?_eq_some_iff.mp found.symm
    exact value.symm.trans (List.getElem_append_left short).symm
  · have beyond : t.spans.length ≤ index := Nat.le_of_not_lt begun
    rw [List.getElem?_eq_none beyond, List.getElem?_eq_none (Nat.le_trans (Nat.le_of_eq length) beyond)]
    exact .none

theorem compares_turn (plain : Bool) (ambient elsewhere : List Context) (along : Alongside owners k t u) :
    (division owners k t u plain).Compares (t.onThread ambient) ((u.reserve t.spans.length t.traces).onThread elsewhere) := by
  have common : (t.onThread ambient).common = ((u.reserve t.spans.length t.traces).onThread elsewhere).common := by
    obtain ⟨installed, rest⟩ := Prod.mk.inj along.settings
    obtain ⟨bridged, sampler⟩ := Prod.mk.inj rest
    simp only [Telemetry.common, Telemetry.bare, Telemetry.onThread, Telemetry.reserve, installed, bridged, sampler]
  refine ⟨⟨common, rfl, records_turn plain along, Nat.le_refl _, ?_, fun _ => rfl⟩, [], [], ?_, ?_, rfl⟩
  · exact fun _ member => absurd member List.not_mem_nil
  · exact (List.append_nil _).symm
  · exact (List.append_nil _).symm

theorem provided_suits {m n : Member} {move : Move} (provided : Provided owners k t m n) (meets : m.meets move = true) :
    ∃ plain mine, Twins mine m n ∧ apart.Covers (division owners k t t plain) t mine ∧ m.Suits move plain := by
  obtain ⟨plain, mine, twins, covered⟩ := provided
  cases twins with
  | asked request held =>
      obtain ⟨other, suits⟩ := meets_suits (.asked request) move meets
      exact ⟨other, request.stakes, .asked request fun _ member => member,
        covers_spans other fun stake member => covered stake (held member), suits⟩
  | calling a b calls held => exact ⟨plain, mine, .calling a b calls held, covered, trivial⟩
  | running a b tasks => exact ⟨plain, mine, .running a b tasks, covered, trivial⟩
  | done => exact ⟨plain, mine, .done, covered, trivial⟩

end Owners

structure Turned (owners : List Nat) (k : Nat) (t u : Telemetry) (a b : Step) : Prop where
  reply : a.reply = b.reply
  news : unreported (a.telemetry.journal.drop t.journal.length) = unreported (b.telemetry.journal.drop u.journal.length)
  provided : Provided (drawn owners k a.telemetry) k a.telemetry a.member b.member
  along : Alongside (drawn owners k a.telemetry) k a.telemetry b.telemetry
  settings : a.telemetry.settings = t.settings
  grown : t.spans.length ≤ a.telemetry.spans.length
  others : ∀ index : Nat, index < t.spans.length → owners[index]? ≠ some k → a.telemetry.spans[index]? = t.spans[index]?

theorem turned_step {owners : List Nat} {k : Nat} {t u : Telemetry} {m n : Member} (move : Move)
    (ambient elsewhere : List Context) (all : owners.length = t.spans.length) (along : Alongside owners k t u)
    (provided : Provided owners k t m n) (insular : move.Insular) (meets : m.meets move = true)
    (here : m.opens move = true → ambient.headD .empty = elsewhere.headD .empty) :
    Turned owners k t u (m.step move (t.onThread ambient))
      (n.step move ((u.reserve t.spans.length t.traces).onThread elsewhere)) := by
  obtain ⟨plain, mine, twins, covered, suits⟩ := provided_suits provided meets
  have same := compares_turn plain ambient elsewhere along
  have covered' : apart.Covers (division owners k t u plain) (t.onThread ambient) mine :=
    covers_moved covered rfl fun span owned => owned
  obtain ⟨stakes, reply, twins', moves, kept⟩ := steps_twins twins move same covered' insular suits here
  generalize m.step move (t.onThread ambient) = a at reply twins' moves kept ⊢
  generalize n.step move ((u.reserve t.spans.length t.traces).onThread elsewhere) = b at reply twins' moves ⊢
  obtain ⟨parallel, news, news', journal, journal', noted⟩ := moves.rel
  have length := Telemetry.records_length parallel.records
  have grown : t.spans.length ≤ a.telemetry.spans.length := parallel.grown
  refine ⟨reply, ?_, ⟨plain, stakes, twins', covers_moved kept rfl fun span => owns_drawn all⟩, ?_, parallel.settings, grown, ?_⟩
  · change a.telemetry.journal = t.journal ++ news at journal
    change b.telemetry.journal = u.journal ++ news' at journal'
    rw [journal, journal', List.drop_left, List.drop_left, noted]
  · refine ⟨Division.parallel_reads parallel Telemetry.settings fun _ => rfl, Nat.le_of_eq length.symm, fun index owned => ?_⟩
    have rel := parallel.records index
    generalize a.telemetry.spans[index]? = first? at rel
    generalize b.telemetry.spans[index]? = second? at rel
    cases rel with
    | none => rfl
    | some beside =>
        refine congrArg some (beside.2 fun foreign => foreign.2 ?_)
        exact (drawn_old k (all ▸ foreign.1)).symm.trans owned
  · intro index old foreign
    have rel := parallel.records index
    have place : a.telemetry.spans[index]? = some a.telemetry.spans[index] :=
      List.getElem?_eq_getElem (Nat.lt_of_lt_of_le old grown)
    rw [place] at rel ⊢
    generalize b.telemetry.spans[index]? = second? at rel
    cases rel with
    | some beside => exact (beside.1 ⟨old, foreign⟩).symm

theorem kept_turn {pool : Pool} {turn : Turn} {m : Member} (kept : Kept pool) (found : pool.members[turn.member]? = some m)
    (insular : turn.move.Insular) (meets : m.meets turn.move = true) :
    Kept (pool.after turn m) ∧ (pool.after turn m).telemetry.settings = pool.telemetry.settings ∧
      pool.telemetry.spans.length ≤ (pool.after turn m).telemetry.spans.length ∧
      ∀ k, turn.member ≠ k → ∀ index : Nat, pool.owners[index]? = some k →
        (pool.after turn m).telemetry.spans[index]? = pool.telemetry.spans[index]? := by
  have turned := turned_step turn.move turn.ambient turn.ambient kept.all
    (alongside_self pool.owners turn.member pool.telemetry) (kept.provided _ m found) insular meets fun _ => rfl
  rw [reserve_self] at turned
  have still : ∀ k, turn.member ≠ k → ∀ index : Nat, pool.owners[index]? = some k →
      (pool.after turn m).telemetry.spans[index]? = pool.telemetry.spans[index]? := by
    intro k other index owned
    have old : index < pool.telemetry.spans.length := kept.all ▸ (List.getElem?_eq_some_iff.mp owned).1
    refine turned.others index old fun mine => other ?_
    exact Option.some.inj (mine.symm.trans owned)
  refine ⟨⟨drawn_length turn.member (kept.all ▸ turned.grown), fun k n found' => ?_⟩, turned.settings, turned.grown, still⟩
  change (pool.members.set turn.member _)[k]? = some n at found'
  by_cases same : turn.member = k
  · subst same
    have short := (List.getElem?_eq_some_iff.mp found).1
    rw [List.getElem?_set_self short] at found'
    obtain rfl := Option.some.inj found'
    exact turned.provided
  · rw [List.getElem?_set_ne same] at found'
    exact provided_waiting kept.all (still k same) (kept.provided k n found')

theorem run_nobody {pool : Pool} {turn : Turn} (rest : List Turn) (nobody : pool.members[turn.member]? = none) :
    pool.run (turn :: rest) = pool.run rest := by
  rw [Pool.run, nobody]

theorem run_member {pool : Pool} {turn : Turn} (rest : List Turn) {member : Member}
    (found : pool.members[turn.member]? = some member) :
    pool.run (turn :: rest) =
      (pool.moment turn member :: ((pool.after turn member).run rest).1, ((pool.after turn member).run rest).2) := by
  rw [Pool.run, found]

theorem moments_own {pool : Pool} {turn : Turn} (rest : List Turn) {member : Member}
    (found : pool.members[turn.member]? = some member) :
    pool.moments (turn :: rest) turn.member = pool.moment turn member :: (pool.after turn member).moments rest turn.member := by
  rw [Pool.moments, run_member rest found]
  exact List.filter_cons_of_pos (by simp [Pool.moment])

theorem moments_other {pool : Pool} {turn : Turn} {k : Nat} (rest : List Turn) {member : Member}
    (found : pool.members[turn.member]? = some member) (other : turn.member ≠ k) :
    pool.moments (turn :: rest) k = (pool.after turn member).moments rest k := by
  rw [Pool.moments, run_member rest found]
  exact List.filter_cons_of_neg (by simp [Pool.moment, other])

theorem as_alone_more {k : Nat} {moments : List Moment} {later : Pool} {member : Member} {t : Telemetry} {moment : Moment}
    {ambient : List Context} {rest : List (Moment × List Context)}
    (same : let s := (t.reserve moment.spans moment.traces).onThread ambient
      (member.step moment.turn.move s).answer s = moment.answer)
    (fares : let step := member.step moment.turn.move ((t.reserve moment.spans moment.traces).onThread ambient)
      AsAlone k moments later (step.member.alone step.telemetry rest)) :
    AsAlone k (moment :: moments) later (member.alone t ((moment, ambient) :: rest)) :=
  ⟨congr (congrArg List.cons same) fares.answers, fares.spans⟩

-- By induction on the turns: a turn of the member is taken alone as well, any
-- other leaves the member and all its own as they are.
theorem as_alone_run (k : Nat) (turns : List Turn) {pool : Pool} {m n : Member} {u : Telemetry}
    (elsewhere : List (List Context)) (kept : Kept pool) (found : pool.members[k]? = some m)
    (provided : Provided pool.owners k pool.telemetry m n) (along : Alongside pool.owners k pool.telemetry u)
    (insular : ∀ turn ∈ turns, turn.move.Insular)
    (meets : ∀ moment ∈ (pool.run turns).1, moment.member.meets moment.turn.move = true)
    (all : elsewhere.length = (pool.moments turns k).length)
    (here : ∀ pair ∈ (pool.moments turns k).zip elsewhere, pair.1.member.opens pair.1.turn.move = true →
      pair.1.turn.ambient.headD .empty = pair.2.headD .empty) :
    AsAlone k (pool.moments turns k) (pool.run turns).2 (n.alone u ((pool.moments turns k).zip elsewhere)) := by
  induction turns generalizing pool m n u elsewhere with
  | nil => exact ⟨rfl, along.own⟩
  | cons turn rest ih =>
      have insular' := fun other member => insular other (List.mem_cons_of_mem turn member)
      cases taker : pool.members[turn.member]? with
      | none =>
          have same : pool.moments (turn :: rest) k = pool.moments rest k := by
            rw [Pool.moments, Pool.moments, run_nobody rest taker]
          rw [run_nobody rest taker] at meets ⊢
          rw [same] at all here ⊢
          exact ih elsewhere kept found provided along insular' meets all here
      | some member =>
          rw [run_member rest taker] at meets ⊢
          have meets' := fun moment listed => meets moment (List.mem_cons_of_mem _ listed)
          have move := insular turn List.mem_cons_self
          have met := meets _ List.mem_cons_self
          obtain ⟨kept', settings, grown, still⟩ := kept_turn kept taker move met
          by_cases own : turn.member = k
          · subst own
            obtain rfl : member = m := Option.some.inj (taker.symm.trans found)
            rw [moments_own rest taker] at all here ⊢
            cases elsewhere with
            | nil => contradiction
            | cons ambient later =>
                have turned := turned_step turn.move turn.ambient ambient kept.all along provided move met
                  (here _ List.mem_cons_self)
                have short := (List.getElem?_eq_some_iff.mp found).1
                exact as_alone_more (Prod.ext turned.reply.symm turned.news.symm)
                  (ih later kept' (List.getElem?_set_self short) turned.provided turned.along insular' meets'
                    (Nat.succ.inj all) fun pair listed => here pair (List.mem_cons_of_mem _ listed))
          · rw [moments_other rest taker own] at all here ⊢
            exact ih elsewhere kept' ((List.getElem?_set_ne own).trans found) (provided_waiting kept.all (still k own) provided)
              (alongside_waiting own settings grown (still k own) along) insular' meets' all here

theorem gather_kept (family : List Request) (t : Telemetry) (fresh : ∀ request ∈ family, request.marks.spans = []) :
    Kept (.gather family t) := by
  refine ⟨List.length_replicate, fun k m found => ?_⟩
  obtain ⟨request, listed, rfl⟩ := List.getElem?_map ▸ found |> Option.map_eq_some_iff.mp
  have bare : request.stakes = [] := by
    rw [Request.stakes, fresh request (List.mem_of_getElem? listed)]
    rfl
  exact ⟨true, [], .asked request (by rw [bare]; exact fun _ member => member), Pairing.covers_none⟩

-- Each member of a family of requests fares as it does alone, whatever the
-- others do in between, on whatever threads.
theorem members_fare_as_alone (family : List Request) (t : Telemetry) (turns : List Turn) (k : Nat) (request : Request)
    (elsewhere : List (List Context)) (fresh : ∀ request ∈ family, request.marks.spans = [])
    (listed : family[k]? = some request) (insular : ∀ turn ∈ turns, turn.move.Insular)
    (meets : ∀ moment ∈ ((Pool.gather family t).run turns).1, moment.member.meets moment.turn.move = true)
    (all : elsewhere.length = ((Pool.gather family t).moments turns k).length)
    (here : ∀ pair ∈ ((Pool.gather family t).moments turns k).zip elsewhere, pair.1.member.opens pair.1.turn.move = true →
      pair.1.turn.ambient.headD .empty = pair.2.headD .empty) :
    AsAlone k ((Pool.gather family t).moments turns k) ((Pool.gather family t).run turns).2
      ((Member.asked request).alone (.start t.installed t.bridged t.sampler) (((Pool.gather family t).moments turns k).zip elsewhere)) := by
  have kept := gather_kept family t fresh
  have found : (Pool.gather family t).members[k]? = some (.asked request) := by
    simp [Pool.gather, listed]
  have along : Alongside (Pool.gather family t).owners k t (.start t.installed t.bridged t.sampler) := by
    refine ⟨rfl, Nat.zero_le _, fun index owned => ?_⟩
    obtain ⟨begun, value⟩ := List.getElem?_eq_some_iff.mp owned
    have outside : k = family.length := value.symm.trans (List.getElem_replicate begun)
    have inside := (List.getElem?_eq_some_iff.mp listed).1
    omega
  exact as_alone_run k turns elsewhere kept found (kept.provided k _ found) along insular meets all here

def slow : Scenario.WorkScript := ⟨"slow", 1, Scenario.WorkScript.accepted, false, none⟩

def caller : ClientInterceptor := .standard ⟨some .silent⟩

def shop : Service :=
  .traceServer plainBoundary (.innermost true ((⟨slow, none, false⟩ : Scenario.ServiceScript).serve caller))

def visits : List Turn :=
  let below : List Context := [.of ⟨1, 1, true, false, .empty⟩]
  [⟨0, .dispatch shop, []⟩, ⟨1, .exchange caller fun request t => (some (slow.work caller), Scenario.noteSent request t), []⟩,
    ⟨0, .poll, []⟩, ⟨1, .poll, []⟩, ⟨1, .poll, below⟩, ⟨0, .poll, below⟩]

def restock : Request := { order with method := "POST" }

def visited : Pool := .gather [order, restock] (.start .silent true)

theorem members_fare_as_alone_call : (visited.moments visits 1).length = 3 ∧
    AsAlone 1 (visited.moments visits 1) (visited.run visits).2
      ((Member.asked restock).alone (.start .silent true) ((visited.moments visits 1).zip [[], [], []])) := by
  have insular : ∀ turn ∈ visits, turn.move.Insular := by
    have serves : shop.Insular := serve_insular caller _ (by simp [slow])
    have works : apart.Works [] (slow.work caller) (slow.work caller) := work_insular caller slow (by simp [slow])
    have sends : apart.Sends [] _ _ := Pairing.sends_work works false
    simp only [visits, List.forall_mem_cons]
    exact ⟨serves, sends, trivial, trivial, trivial, trivial, by simp⟩
  refine ⟨rfl, members_fare_as_alone [order, restock] (.start .silent true) visits 1 restock [[], [], []] ?_ rfl insular ?_ rfl ?_⟩
  · decide
  · decide
  · decide

end RequestSpans.Members
