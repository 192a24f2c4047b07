import RequestSpans.Proofs.Pattern.Escaped

set_option autoImplicit false

namespace RequestSpans.Pattern

section Names

variable {s t : Reading}

theorem feed_names (token : Token) (fed : s.feed? token = some t) :
    t.names = s.names ∨ ∃ name, name ∉ s.names ∧ t.names = name :: s.names := by
  cases token with
  | opening kind =>
      cases kind with
      | named name =>
          simp only [Reading.feed?, Reading.openGroup?] at fed
          split at fed
          · contradiction
          · rename_i free
            obtain rfl := Option.some.inj fed
            exact .inr ⟨name, by simpa using free, rfl⟩
      | _ =>
          obtain rfl := Option.some.inj fed
          exact .inl rfl
  | closing =>
      simp only [Reading.feed?, Reading.closeGroup?] at fed
      split at fed
      · contradiction
      · obtain rfl := Option.some.inj fed
        exact .inl rfl
  | repetition least most? =>
      simp only [Reading.feed?, Reading.repeatLast?] at fed
      split at fed
      · obtain rfl := Option.some.inj fed
        exact .inl rfl
      · contradiction
  | _ =>
      obtain rfl := Option.some.inj fed
      exact .inl rfl

theorem run_names (fuel : Nat) (s e : Reading) (text : List Char) (run : Reading.run? fuel s text = some e) :
    s.names <:+ e.names ∧ (s.names.Nodup → e.names.Nodup) := by
  induction fuel using Nat.strongRecOn generalizing s text with
  | _ fuel ih =>
    cases skipped : s.flags.skip text with
    | nil =>
        obtain rfl := run_stays fuel s e text skipped run
        exact ⟨List.suffix_refl _, id⟩
    | cons c behind =>
        obtain ⟨fewer, token, rest, next, rfl, _, fed, onward⟩ := run_step fuel s e text c behind skipped run
        obtain ⟨within, distinct⟩ := ih fewer (Nat.lt_succ_self _) next rest onward
        rcases feed_names token fed with same | ⟨name, free, more⟩
        · rw [same] at within distinct
          exact ⟨within, distinct⟩
        · rw [more] at within distinct
          exact ⟨(List.suffix_cons _ _).trans within, fun known => distinct (List.nodup_cons.mpr ⟨free, known⟩)⟩

end Names

section Forward

variable {base s s' t : Reading}

theorem feed_forward (token : Token) (under : Under base s s') (fed : s.feed? token = some t)
    (free : ∀ name ∈ t.names, name ∉ base.names) : ∃ t', s'.feed? token = some t' := by
  obtain ⟨_, names, stacked⟩ := under
  cases token with
  | opening kind =>
      cases kind with
      | named name =>
          simp only [Reading.feed?, Reading.openGroup?] at fed
          split at fed
          · contradiction
          · rename_i unused
            obtain rfl := Option.some.inj fed
            have other := free name List.mem_cons_self
            have fresh : s'.names.contains name = false := by
              rw [names]
              simpa [other] using unused
            simp only [Reading.feed?, Reading.openGroup?, fresh, Bool.false_eq_true, if_false]
            exact ⟨_, rfl⟩
      | _ => exact ⟨_, rfl⟩
  | closing =>
      obtain ⟨_, _, group, outer⟩ := s
      obtain ⟨_, _, group', outer'⟩ := s'
      cases stacked with
      | bottom => contradiction
      | above _ next next' outer outer' stacked => exact ⟨_, rfl⟩
  | repetition least most? =>
      simp only [Reading.feed?, Reading.repeatLast?] at fed ⊢
      split at fed
      · rename_i pattern items last
        obtain ⟨items', last', -⟩ := stacked_head ⟨pattern, true⟩ items stacked last
        rw [last']
        exact ⟨_, rfl⟩
      · contradiction
  | _ => exact ⟨_, rfl⟩

-- Reading a word takes one state to the other, if nothing follows or something
-- that the word cannot take in.
def Crosses (s : Reading) (word : List Char) (s' : Reading) : Prop :=
  ∀ (fuel : Nat) (more : List Char) (f : Reading), more = [] ∨ Stops more → Reading.run? fuel s' more = some f →
    Reading.run? (word.length + fuel) s (word ++ more) = some f

-- A token is read as it is by itself, unless blank text is insignificant when
-- the word is over.
theorem read_onward {more : List Char} (ends : more = [] ∨ Stops more) (flags : Flags) (text rest : List Char) (token : Token)
    (read : Token.read? flags text = some (token, rest)) (inside : token = .opening .capture → rest ≠ [])
    (significant : rest = [] → token.Plain → flags.ignoreSpace ≠ true) :
    Token.read? flags (text ++ more) = some (token, rest ++ more) := by
  rcases ends with rfl | stops
  · rw [List.append_nil, List.append_nil, read]
  · rcases Token.read_reads stops flags text rest token read with ⟨opens, gone⟩ | ⟨left, again, leaves⟩
    · exact absurd gone (inside opens)
    · rw [again]
      rcases leaves with rfl | ⟨plain, _ | ⟨_, blank, _⟩⟩
      · rfl
      · rfl
      · exact absurd blank (significant rfl plain)

theorem skip_onward {more : List Char} (ends : more = [] ∨ Stops more) (flags : Flags) (text : List Char)
    (gone : flags.skip text = []) (significant : flags.ignoreSpace ≠ true) : flags.skip (text ++ more) = more := by
  rcases ends with rfl | stops
  · rw [List.append_nil, gone]
  · have leaves := skip_leaves stops flags text
    rw [gone] at leaves
    generalize flags.skip (text ++ more) = rest at leaves
    cases leaves with
    | behind => rfl
    | swallowed _ blank _ => exact absurd blank significant

theorem run_forward (fuel : Nat) (text : List Char) (e : Reading) (under : Under base s s')
    (run : Reading.run? fuel s text = some e) (closed : e.outer = []) (plain : e.flags = .default)
    (free : ∀ name ∈ e.names, name ∉ base.names) :
    ∃ e', Under base e e' ∧ ∀ (left : Nat) (more : List Char) (f : Reading), more = [] ∨ Stops more →
      Reading.run? left e' more = some f → Reading.run? (fuel + left) s' (text ++ more) = some f := by
  induction fuel using Nat.strongRecOn generalizing s s' text with
  | _ fuel ih =>
    have significant : e.flags.ignoreSpace ≠ true := by rw [plain]; decide
    cases skipped : s.flags.skip text with
    | nil =>
        obtain rfl := run_stays fuel s e text skipped run
        refine ⟨s', under, fun left more f ends onward => ?_⟩
        rw [← run_skipped, under.flags, skip_onward ends s.flags text skipped significant]
        exact run_longer left fuel s' f more onward
    | cons c behind =>
        obtain ⟨fewer, token, rest, next, rfl, read, fed, run⟩ := run_step fuel s e text c behind skipped run
        obtain ⟨within, -⟩ := run_names fewer next e rest run
        obtain ⟨next', fed'⟩ := feed_forward token under fed fun name known => free name (within.subset known)
        obtain ⟨e', above, onward⟩ := ih fewer (Nat.lt_succ_self _) rest (feed_under token under fed fed') run
        refine ⟨e', above, fun left more f ends run' => ?_⟩
        have longer := skip_cons s'.flags text more c behind (under.flags ▸ skipped)
        have inside : token = .opening .capture → rest ≠ [] := by
          rintro rfl rfl
          obtain rfl := Option.some.inj fed
          obtain rfl := run_stays _ _ e [] (skip_nothing _) run
          contradiction
        have outside : rest = [] → token.Plain → s.flags.ignoreSpace ≠ true := by
          rintro rfl quiet
          obtain rfl := run_stays _ _ e [] (skip_nothing _) run
          rw [← plain_flags token quiet fed]
          exact significant
        have again := read_onward ends s.flags (c :: behind) rest token read inside outside
        rw [List.cons_append] at again
        rw [Nat.add_right_comm, Reading.run?, longer]
        simp only [under.flags, again, fed', Option.bind_some]
        exact onward left more f ends run'

end Forward

def Group.alternatives (group : Group) : List (Nested Pattern) := Group.sequence group.items :: group.branches

theorem extended_alternatives (base group group' : Group) (extended : Extends base group group') (empty : base.items = []) :
    group'.alternatives = group.alternatives ++ base.branches := by
  cases extended <;> simp [Group.alternatives, empty]

structure Adds (names : List String) (branches : List (Nested Pattern)) (s s' : Reading) : Prop where
  flags : s'.flags = .default
  names : s'.names = names ++ s.names
  outer : s'.outer = s.outer
  parenthesis : s'.group.parenthesis = s.group.parenthesis
  alternatives : s'.group.alternatives = branches ++ s.group.branches

theorem contained_onward {word : List Char} {e : Reading} (contained : Contained word e) (s : Reading)
    (plain : s.flags = .default) (free : ∀ name ∈ e.names, name ∉ s.names) :
    ∃ s', Crosses s word s' ∧ s'.flags = .default ∧ s'.names = e.names ++ s.names ∧ s'.outer = s.outer ∧
      Extends s.group e.group s'.group := by
  obtain ⟨s', under, crosses⟩ := run_forward word.length word e (under_start s plain) contained.run contained.closed
    contained.plain free
  have stacked := under.stacked
  rw [contained.closed] at stacked
  obtain ⟨outer, extended⟩ := stacked_closed _ _ _ _ _ stacked
  exact ⟨s', fun fuel more f => crosses fuel more f, under.flags.trans contained.plain, under.names, outer, extended⟩

theorem contained_crosses {word : List Char} {e : Reading} (contained : Contained word e) (s : Reading)
    (plain : s.flags = .default) (empty : s.group.items = []) (free : ∀ name ∈ e.names, name ∉ s.names) :
    ∃ s', Crosses s word s' ∧ Adds e.names e.group.alternatives s s' := by
  obtain ⟨s', crosses, flags, names, outer, extended⟩ := contained_onward contained s plain free
  exact ⟨s', crosses, flags, names, outer, extended_parenthesis _ _ _ extended, extended_alternatives _ _ _ extended empty⟩

end RequestSpans.Pattern
