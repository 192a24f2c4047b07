import RequestSpans.Proofs.Pattern.Token

set_option autoImplicit false

namespace RequestSpans.Pattern

-- A group that was begun empty, and the same group when there was something in it
-- already. That has become the beginning of the first branch, and the branches
-- before it.
inductive Extends (base : Group) : Group → Group → Prop
  | first (items : List Item) (own : Parenthesis) :
      Extends base ⟨[], items, own⟩ ⟨base.branches, items ++ base.items, base.parenthesis⟩
  | later (branches : List (Nested Pattern)) (first items : List Item) (own : Parenthesis) :
      Extends base ⟨branches ++ [Group.sequence first], items, own⟩
        ⟨branches ++ Group.sequence (first ++ base.items) :: base.branches, items, base.parenthesis⟩

inductive Stacked (base : Group) (below : List Group) : Group → List Group → Group → List Group → Prop
  | bottom (group group' : Group) (extended : Extends base group group') : Stacked base below group [] group' below
  | above (group next next' : Group) (outer outer' : List Group) (stacked : Stacked base below next outer next' outer') :
      Stacked base below group (next :: outer) group (next' :: outer')

structure Under (base s s' : Reading) : Prop where
  flags : s'.flags = s.flags
  names : s'.names = s.names ++ base.names
  stacked : Stacked base.group base.outer s.group s.outer s'.group s'.outer

theorem under_start (base : Reading) (plain : base.flags = .default) : Under base .start base where
  flags := plain
  names := rfl
  stacked := .bottom _ _ (.first [] ⟨.default, false⟩)

section Groups

variable {base : Group} {below : List Group} {group group' : Group} {outer outer' : List Group}

theorem extends_item (item : Item) (extended : Extends base group group') :
    Extends base { group with items := item :: group.items } { group' with items := item :: group'.items } := by
  cases extended with
  | first items own => exact .first (item :: items) own
  | later branches first items own => exact .later branches first (item :: items) own

theorem extends_bar (extended : Extends base group group') :
    Extends base { group with branches := Group.sequence group.items :: group.branches, items := [] }
      { group' with branches := Group.sequence group'.items :: group'.branches, items := [] } := by
  cases extended with
  | first items own => exact .later [] items [] own
  | later branches first items own => exact .later (Group.sequence items :: branches) first [] own

theorem stacked_change (change : Group → Group) (stacked : Stacked base below group outer group' outer')
    (keeps : ∀ a b, Extends base a b → Extends base (change a) (change b)) :
    Stacked base below (change group) outer (change group') outer' := by
  cases stacked with
  | bottom _ _ extended => exact .bottom _ _ (keeps _ _ extended)
  | above _ next next' outer outer' stacked => exact .above _ _ _ _ _ stacked

theorem stacked_head (item : Item) (items : List Item) (stacked : Stacked base below group outer group' outer')
    (last : group.items = item :: items) :
    ∃ items', group'.items = item :: items' ∧ ∀ other,
      Stacked base below { group with items := other :: items } outer { group' with items := other :: items' } outer' := by
  cases stacked with
  | above _ next next' outer outer' stacked => exact ⟨items, last, fun _ => .above _ _ _ _ _ stacked⟩
  | bottom _ _ extended =>
      cases extended with
      | first _ flags =>
          obtain rfl := last
          exact ⟨items ++ base.items, rfl, fun other => .bottom _ _ (.first (other :: items) flags)⟩
      | later branches first _ flags =>
          obtain rfl := last
          exact ⟨items, rfl, fun other => .bottom _ _ (.later branches first (other :: items) flags)⟩

end Groups

section Readings

variable {base s s' t t' : Reading}

theorem under_item (item : Item) (under : Under base s s') : Under base (s.addItem item) (s'.addItem item) where
  flags := under.flags
  names := under.names
  stacked := stacked_change (fun group => { group with items := item :: group.items }) under.stacked
    fun _ _ => extends_item item

theorem feed_under (token : Token) (under : Under base s s') (fed : s.feed? token = some t)
    (fed' : s'.feed? token = some t') :
    Under base t t' := by
  obtain ⟨flags, names, stacked⟩ := id under
  cases token with
  | opening kind =>
      cases kind with
      | capture =>
          obtain rfl := Option.some.inj fed
          obtain rfl := Option.some.inj fed'
          rw [flags]
          exact ⟨rfl, names, .above _ _ _ _ _ stacked⟩
      | plain items =>
          obtain rfl := Option.some.inj fed
          obtain rfl := Option.some.inj fed'
          rw [flags]
          exact ⟨rfl, names, .above _ _ _ _ _ stacked⟩
      | named name =>
          simp only [Reading.feed?, Reading.openGroup?] at fed fed'
          split at fed
          · contradiction
          · split at fed'
            · contradiction
            · obtain rfl := Option.some.inj fed
              obtain rfl := Option.some.inj fed'
              rw [flags]
              exact ⟨rfl, by rw [names, List.cons_append], .above _ _ _ _ _ stacked⟩
  | flags items =>
      obtain rfl := Option.some.inj fed
      obtain rfl := Option.some.inj fed'
      exact ⟨by rw [flags], names, (under_item _ under).stacked⟩
  | closing =>
      simp only [Reading.feed?, Reading.closeGroup?] at fed fed'
      obtain ⟨sflags, snames, group, outer⟩ := s
      obtain ⟨sflags', snames', group', outer'⟩ := s'
      cases stacked with
      | bottom => contradiction
      | above _ next next' outer outer' stacked =>
          obtain rfl := Option.some.inj fed
          obtain rfl := Option.some.inj fed'
          exact ⟨rfl, names, stacked_change (fun group => { group with items := _ :: group.items }) stacked
            fun _ _ => extends_item _⟩
  | bar =>
      obtain rfl := Option.some.inj fed
      obtain rfl := Option.some.inj fed'
      exact ⟨flags, names, stacked_change (fun group => { group with
        branches := Group.sequence group.items :: group.branches, items := [] }) stacked fun _ _ => extends_bar⟩
  | repetition least most? =>
      simp only [Reading.feed?, Reading.repeatLast?] at fed fed'
      split at fed
      · rename_i pattern items last
        obtain rfl := Option.some.inj fed
        obtain ⟨items', last', extended⟩ := stacked_head ⟨pattern, true⟩ items stacked last
        rw [last'] at fed'
        obtain rfl := Option.some.inj fed'
        exact ⟨flags, names, extended _⟩
      · contradiction
  | atom pattern =>
      obtain rfl := Option.some.inj fed
      obtain rfl := Option.some.inj fed'
      exact under_item _ under

theorem plain_flags (token : Token) (plain : token.Plain) (fed : s.feed? token = some t) : t.flags = s.flags := by
  cases token with
  | repetition least most? =>
      simp only [Reading.feed?, Reading.repeatLast?] at fed
      split at fed
      · obtain rfl := Option.some.inj fed
        rfl
      · contradiction
  | atom pattern =>
      obtain rfl := Option.some.inj fed
      rfl
  | _ => exact plain.elim

theorem run_over (fuel : Nat) (s : Reading) (text : List Char) (gone : s.flags.skip text = []) :
    Reading.run? fuel s text = some s := by
  cases fuel <;> rw [Reading.run?, gone]

theorem run_stays (fuel : Nat) (s e : Reading) (text : List Char) (gone : s.flags.skip text = [])
    (run : Reading.run? fuel s text = some e) : s = e :=
  Option.some.inj ((run_over fuel s text gone).symm.trans run)

theorem run_step (fuel : Nat) (s e : Reading) (text : List Char) (c : Char) (behind : List Char)
    (skipped : s.flags.skip text = c :: behind) (run : Reading.run? fuel s text = some e) :
    ∃ fewer token rest next, fuel = fewer + 1 ∧ Token.read? s.flags (c :: behind) = some (token, rest) ∧
      s.feed? token = some next ∧ Reading.run? fewer next rest = some e := by
  cases fuel with
  | zero => simp [Reading.run?, skipped] at run
  | succ fewer =>
      rw [Reading.run?, skipped] at run
      obtain ⟨⟨token, rest⟩, read, run⟩ := Option.bind_eq_some_iff.mp run
      obtain ⟨next, fed, run⟩ := Option.bind_eq_some_iff.mp run
      exact ⟨fewer, token, rest, next, rfl, read, fed, run⟩

theorem run_skipped (fuel : Nat) (s : Reading) (text : List Char) :
    Reading.run? fuel s (s.flags.skip text) = Reading.run? fuel s text := by
  cases fuel <;> rw [Reading.run?, Reading.run?, skip_again]

-- A part that is read up to its end leaves the reading to what follows it. The
-- part is followed token by token; the groups that it opens it also closes.
theorem run_under {more : List Char} (stops : Stops more) (fuel fuel' : Nat) (text : List Char) (e f : Reading)
    (under : Under base s s') (run : Reading.run? fuel s text = some e) (closed : e.outer = [])
    (onward : Reading.run? fuel' s' (text ++ more) = some f) :
    ∃ left rest e', Under base e e' ∧ Reading.run? left e' rest = some f ∧
      (rest = more ∨ e.flags.ignoreSpace = true ∧ rest <:+ skipBlanks true more) := by
  induction fuel using Nat.strongRecOn generalizing fuel' s s' text with
  | _ fuel ih =>
    cases skipped : s.flags.skip text with
    | nil =>
        obtain rfl := run_stays _ s e text skipped run
        have leaves := skip_leaves stops s.flags text
        rw [← run_skipped, under.flags] at onward
        rw [skipped] at leaves
        generalize s.flags.skip (text ++ more) = rest at leaves onward
        refine ⟨fuel', rest, s', under, onward, ?_⟩
        cases leaves with
        | behind => exact .inl rfl
        | swallowed _ blank within => exact .inr ⟨blank, within⟩
    | cons c behind =>
        obtain ⟨fewer, token, rest, next, rfl, read, fed, run⟩ := run_step fuel s e text c behind skipped run
        have longer := skip_cons s'.flags text more c behind (under.flags ▸ skipped)
        obtain ⟨fewer', token', rest', next', rfl, read', fed', onward⟩ :=
          run_step fuel' s' f (text ++ more) c (behind ++ more) longer onward
        rw [under.flags] at read'
        rcases Token.read_reads stops s.flags (c :: behind) rest token read with ⟨rfl, rfl⟩ | ⟨left, again, leaves⟩
        · -- The text ends in a group that is never closed.
          obtain rfl := Option.some.inj fed
          obtain rfl := run_stays _ _ e [] (skip_nothing _) run
          contradiction
        · obtain ⟨rfl, rfl⟩ := Prod.mk.inj (Option.some.inj (again.symm.trans read'))
          have following := feed_under token under fed fed'
          rcases leaves with rfl | ⟨plain, leaves⟩
          · exact ih fewer (Nat.lt_succ_self _) fewer' rest following run onward
          · cases leaves with
            | behind => exact ih fewer (Nat.lt_succ_self _) fewer' rest following run onward
            | swallowed _ blank within =>
                obtain rfl := run_stays _ _ e [] (skip_nothing _) run
                refine ⟨fewer', left, next', following, onward, .inr ⟨?_, within⟩⟩
                rw [plain_flags token plain fed]
                exact blank

end Readings

end RequestSpans.Pattern
