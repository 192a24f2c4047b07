import RequestSpans.Proofs.Pattern.Whole
import RequestSpans.Text.Split

set_option autoImplicit false

namespace RequestSpans.Pattern

-- Wherever a part is read, reading goes on behind it with the branches that the
-- part accepts texts by, beside those that the group had before.
def Part (word : List Char) (accepts : String → Prop) : Prop :=
  ∀ (fuel : Nat) (s f : Reading) (more : List Char), s.flags = .default → s.group.items = [] → Stops more →
    Reading.run? fuel s (word ++ more) = some f →
    ∃ left s', Reading.run? left s' more = some f ∧ s'.flags = .default ∧ s'.outer = s.outer ∧
      s'.group.parenthesis = s.group.parenthesis ∧
      ∀ text, s'.group.Accepts text ↔
        (∃ branch ∈ s.group.branches, branch.value.matchesWhole text = true) ∨ accepts text

-- A part by itself: reading it closes the groups that it opens, and leaves the
-- flags as they were.
structure Contained (word : List Char) (e : Reading) : Prop where
  run : Reading.run? word.length .start word = some e
  closed : e.outer = []
  plain : e.flags = .default

theorem extended_accepts (base group group' : Group) (extended : Extends base group group') (empty : base.items = [])
    (text : String) :
    group'.Accepts text ↔
      (∃ branch ∈ base.branches, branch.value.matchesWhole text = true) ∨ group.Accepts text := by
  cases extended with
  | first items own =>
      simp only [Group.Accepts, empty, List.append_nil, List.mem_cons, List.not_mem_nil, or_false, exists_eq_or_imp,
        exists_eq_left]
      exact or_comm
  | later branches first items own =>
      simp only [Group.Accepts, empty, List.append_nil, List.mem_cons, List.mem_append, List.not_mem_nil, or_false,
        or_and_right, exists_or, exists_eq_left]
      rw [or_comm (a := ∃ branch, branch ∈ base.branches ∧ branch.value.matchesWhole text = true)]
      simp only [or_assoc]

theorem stacked_closed (base : Group) (below : List Group) (group group' : Group) (outer' : List Group)
    (stacked : Stacked base below group [] group' outer') : outer' = below ∧ Extends base group group' := by
  cases stacked with
  | bottom _ _ extended => exact ⟨rfl, extended⟩

theorem extended_parenthesis (base group group' : Group) (extended : Extends base group group') :
    group'.parenthesis = base.parenthesis := by
  cases extended <;> rfl

theorem contained_under {base : Reading} {word more : List Char} {e f : Reading} (contained : Contained word e)
    (plain : base.flags = .default) (stops : Stops more) (fuel : Nat)
    (onward : Reading.run? fuel base (word ++ more) = some f) :
    ∃ left e', Reading.run? left e' more = some f ∧ e'.flags = .default ∧ e'.names = e.names ++ base.names ∧
      e'.outer = base.outer ∧ Extends base.group e.group e'.group := by
  obtain ⟨left, rest, e', under, run, rest_⟩ :=
    run_under stops word.length fuel word e f (under_start base plain) contained.run contained.closed onward
  have stacked := under.stacked
  rw [contained.closed] at stacked
  obtain ⟨outer, extended⟩ := stacked_closed _ _ _ _ _ stacked
  rcases rest_ with rfl | ⟨blank, _⟩
  · exact ⟨left, e', run, under.flags.trans contained.plain, under.names, outer, extended⟩
  · rw [contained.plain] at blank
    contradiction

theorem contained_part (word : List Char) (e : Reading) (contained : Contained word e) : Part word e.group.Accepts := by
  intro fuel s f more plain empty stops onward
  obtain ⟨left, e', run, flags, -, outer, extended⟩ := contained_under contained plain stops fuel onward
  exact ⟨left, e', run, flags, outer, extended_parenthesis _ _ _ extended, extended_accepts _ _ _ extended empty⟩

theorem run_token (fuel : Nat) (s f : Reading) (c : Char) (text : List Char) (token : Token) (rest : List Char)
    (next : Reading) (plain : s.flags = .default) (read : Token.read? .default (c :: text) = some (token, rest))
    (fed : s.feed? token = some next) (run : Reading.run? fuel s (c :: text) = some f) :
    ∃ fewer, Reading.run? fewer next rest = some f := by
  have skipped : s.flags.skip (c :: text) = c :: text := by rw [plain]; rfl
  obtain ⟨fewer, token', rest', next', rfl, read', fed', onward⟩ := run_step fuel s f (c :: text) c text skipped run
  rw [plain] at read'
  obtain ⟨rfl, rfl⟩ := Prod.mk.inj (Option.some.inj (read.symm.trans read'))
  obtain rfl := Option.some.inj (fed.symm.trans fed')
  exact ⟨fewer, onward⟩

def grouped (word : List Char) : List Char := '(' :: '?' :: ':' :: (word ++ [')'])

theorem run_group_opened (fuel : Nat) (s f : Reading) (text : List Char) (plain : s.flags = .default)
    (run : Reading.run? fuel s ('(' :: '?' :: ':' :: text) = some f) :
    ∃ left, Reading.run? left ⟨.default, s.names, .start .default false, s.group :: s.outer⟩ text = some f := by
  obtain ⟨left, onward⟩ := run_token fuel s f _ _ (.opening (.plain [])) text _ plain rfl rfl run
  rw [plain] at onward
  exact ⟨left, onward⟩

theorem run_closed (fuel : Nat) (s f : Reading) (text : List Char) (run : Reading.run? fuel s (')' :: text) = some f) :
    ∃ left next, s.closeGroup? = some next ∧ Reading.run? left next text = some f := by
  have skipped : s.flags.skip (')' :: text) = ')' :: text := stops_skip ⟨')', text, rfl, by decide⟩ s.flags
  obtain ⟨fewer, token, rest, next, rfl, read, fed, onward⟩ := run_step fuel s f (')' :: text) ')' text skipped run
  obtain ⟨rfl, rfl⟩ := Prod.mk.inj (Option.some.inj read)
  exact ⟨fewer, next, fed, onward⟩

theorem run_grouped {word more : List Char} {accepts : String → Prop} (part : Part word accepts) (fuel : Nat) (s f : Reading)
    (plain : s.flags = .default) (run : Reading.run? fuel s (grouped word ++ more) = some f) :
    ∃ left names item,
      Reading.run? left ⟨.default, names, { s.group with items := item :: s.group.items }, s.outer⟩ more = some f ∧
      ∀ text, item.pattern.value.matchesWhole text = true ↔ accepts text := by
  have shape : grouped word ++ more = '(' :: '?' :: ':' :: (word ++ ')' :: more) := by simp [grouped]
  rw [shape] at run
  obtain ⟨left, inside⟩ := run_group_opened fuel s f _ plain run
  obtain ⟨left, s', behind, flags, outer, parenthesis, whole⟩ :=
    part left _ f (')' :: more) rfl rfl ⟨')', more, rfl, by decide⟩ inside
  obtain ⟨left, next, closed, onward⟩ := run_closed left s' f more behind
  rw [Reading.closeGroup?, outer] at closed
  obtain rfl := Option.some.inj closed
  rw [parenthesis] at onward
  refine ⟨left, _, _, onward, fun text => ?_⟩
  change s'.group.finish.value.matchesWhole text = true ↔ _
  rw [finish_whole, whole]
  simp [Group.start]

theorem grouped_part {word : List Char} {accepts : String → Prop} (part : Part word accepts) :
    Part (grouped word) accepts := by
  intro fuel s f more plain empty _ onward
  obtain ⟨left, names, item, behind, whole⟩ := run_grouped part fuel s f plain onward
  refine ⟨left, _, behind, rfl, rfl, rfl, fun text => ?_⟩
  simp only [Group.Accepts, empty, Group.sequence, List.mem_cons, exists_eq_or_imp, whole]
  exact or_comm

theorem joined_part {α : Type} (word : α → List Char) (accepts : α → String → Prop) (members : List α) (some_ : members ≠ [])
    (parts : ∀ member ∈ members, Part (word member) (accepts member)) :
    Part (Text.join '|' (members.map word)) fun text => ∃ member ∈ members, accepts member text := by
  induction members with
  | nil => contradiction
  | cons first rest ih =>
      have here := parts first List.mem_cons_self
      cases rest with
      | nil => simpa [Text.join] using here
      | cons next others =>
          have behind := ih (by simp) fun other known => parts other (List.mem_cons_of_mem first known)
          intro fuel s f more plain empty stops onward
          have shape : Text.join '|' ((first :: next :: others).map word) ++ more =
              word first ++ '|' :: (Text.join '|' ((next :: others).map word) ++ more) := by simp [Text.join]
          rw [shape] at onward
          obtain ⟨left, s₁, onward, flags₁, outer₁, parenthesis₁, whole₁⟩ :=
            here fuel s f _ plain empty ⟨'|', _, rfl, by decide⟩ onward
          obtain ⟨left, onward⟩ := run_token left s₁ f _ _ .bar _ _ flags₁ rfl rfl onward
          obtain ⟨left, s₃, onward, flags₃, outer₃, parenthesis₃, whole₃⟩ :=
            behind left _ f more (by exact flags₁) rfl stops onward
          refine ⟨left, s₃, onward, flags₃, outer₃.trans outer₁, parenthesis₃.trans parenthesis₁, fun text => ?_⟩
          rw [whole₃]
          change s₁.group.Accepts text ∨ _ ↔ _
          rw [whole₁, or_assoc]
          simp only [List.mem_cons, exists_eq_or_imp]

def anchored (word : List Char) : List Char := '^' :: (grouped word ++ ['$'])

theorem parsed_reading [Engine] (text : String) (pattern : Pattern) (read : parse? text = some pattern) :
    ∃ e, Reading.run? text.length .start text.toList = some e ∧ e.outer = [] ∧ e.group.finish.value = pattern := by
  obtain ⟨e, run, limited⟩ := Option.bind_eq_some_iff.mp read
  split at limited
  · rename_i closed
    dsimp only at limited
    split at limited
    · exact ⟨e, run, List.isEmpty_iff.mp closed, Option.some.inj limited⟩
    · contradiction
  · contradiction

theorem run_start (fuel : Nat) (f : Reading) (text : List Char) (run : Reading.run? fuel .start ('^' :: text) = some f) :
    ∃ left, Reading.run? left (Reading.start.addItem (anchor .textStart)) text = some f :=
  run_token fuel .start f _ _ (.atom ⟨.assert .textStart, 0⟩) text _ rfl rfl rfl run

theorem run_end (fuel : Nat) (s f : Reading) (plain : s.flags = .default) (run : Reading.run? fuel s ['$'] = some f) :
    f = s.addItem (anchor .textEnd) := by
  obtain ⟨left, onward⟩ := run_token fuel s f _ _ (.atom ⟨.assert .textEnd, 0⟩) [] _ plain rfl rfl run
  exact (run_stays left _ f [] (skip_nothing _) onward).symm

theorem anchored_matches [Engine] {word : List Char} {accepts : String → Prop} (part : Part word accepts) (text : String)
    (pattern : Pattern) (shape : text.toList = anchored word) (read : parse? text = some pattern) (path : String) :
    (pattern.matchesIn path = true ↔ accepts path) ∧ (pattern.matchesWhole path = true ↔ accepts path) := by
  obtain ⟨e, run, -, rfl⟩ := parsed_reading text pattern read
  rw [shape] at run
  obtain ⟨left, run⟩ := run_start _ e _ run
  obtain ⟨left, names, item, run, whole⟩ := run_grouped part left _ e rfl run
  obtain rfl := run_end left _ e rfl run
  rw [← whole]
  constructor
  · rw [← between_anchors]
    simp only [matchesIn, Reading.addItem, Reading.start, Group.start, Group.finish, sequence_reach, List.foldr, anchor,
      decide_eq_true_eq]
  · change (Group.sequence (anchor .textEnd :: ([item] ++ [anchor .textStart]))).value.matchesWhole path = true ↔ _
    rw [end_whole, start_whole, Group.sequence]

end RequestSpans.Pattern
