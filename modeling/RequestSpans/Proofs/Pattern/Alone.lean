import RequestSpans.Proofs.Pattern.Part

set_option autoImplicit false

namespace RequestSpans.Pattern

theorem extended_whole (base group group' : Group) (extended : Extends base group group') (first : base.branches = [])
    (start : base.items = [anchor .textStart]) (text : String) :
    Group.Accepts { group' with items := anchor .textEnd :: group'.items } text ↔ group.Accepts text := by
  cases extended with
  | first items own => simp [Group.Accepts, first, start, end_whole, start_whole]
  | later branches before items own => simp [Group.Accepts, first, start, end_whole, start_whole]

theorem single_accepts (item : Item) (parenthesis : Parenthesis) (text : String) :
    Group.Accepts ⟨[], [item], parenthesis⟩ text ↔ item.pattern.value.matchesWhole text = true := by
  simp [Group.Accepts, Group.sequence]

-- In a group of its own a pattern is read as it is by itself, unless the text ends
-- within a comment; but then the group is never closed.
theorem grouped_alone [Engine] {word : List Char} {e : Reading} (contained : Contained (grouped word) e) (text : String)
    (pattern : Pattern) (shape : text.toList = word) (read : parse? text = some pattern) (path : String) :
    e.group.Accepts path ↔ pattern.matchesWhole path = true := by
  obtain ⟨alone, run, closed, rfl⟩ := parsed_reading text pattern read
  rw [shape] at run
  obtain ⟨left, inside⟩ := run_group_opened _ .start e (word ++ [')']) rfl contained.run
  obtain ⟨left, rest, e', under, onward, rest_⟩ :=
    run_under ⟨')', [], rfl, by decide⟩ _ _ word alone e (under_start _ rfl) run closed inside
  have stacked := under.stacked
  rw [closed] at stacked
  obtain ⟨outer, extended⟩ := stacked_closed _ _ _ _ _ stacked
  rcases rest_ with rfl | ⟨-, within⟩
  · obtain ⟨left, next, closing, onward⟩ := run_closed left e' e [] onward
    obtain rfl := run_stays left next e [] (skip_nothing _) onward
    rw [Reading.closeGroup?, outer, extended_parenthesis _ _ _ extended] at closing
    obtain rfl := Option.some.inj closing
    have inner := extended_accepts _ _ _ extended rfl path
    have unbranched : ¬∃ branch ∈ (Group.start .default false).branches, branch.value.matchesWhole path = true := by
      simp [Group.start]
    calc
      _ ↔ e'.group.finish.value.matchesWhole path = true :=
        single_accepts ⟨⟨e'.group.finish.value, e'.group.finish.depth + 1⟩, true⟩ ⟨.default, false⟩ path
      _ ↔ e'.group.Accepts path := finish_whole e'.group path
      _ ↔ alone.group.Accepts path := inner.trans (or_iff_right unbranched)
      _ ↔ _ := (finish_whole alone.group path).symm
  · have gone : rest = [] := List.suffix_nil.mp (by simpa [skipBlanks] using within)
    obtain rfl := run_stays left e' e rest (by rw [gone, skip_nothing]) onward
    rw [contained.closed] at outer
    contradiction

theorem anchored_alone [Engine] {word : List Char} {e : Reading} (contained : Contained (grouped word) e) (text : String)
    (pattern : Pattern) (shape : text.toList = anchored word) (read : parse? text = some pattern) (path : String) :
    e.group.Accepts path ↔ pattern.matchesWhole path = true := by
  obtain ⟨alone, run, -, rfl⟩ := parsed_reading text pattern read
  rw [shape] at run
  obtain ⟨left, run⟩ := run_start _ alone _ run
  obtain ⟨left, e', onward, flags, -, -, extended⟩ := contained_under contained rfl ⟨'$', [], rfl, by decide⟩ left run
  obtain rfl := run_end left e' alone flags onward
  rw [finish_whole]
  exact (extended_whole _ _ _ extended rfl rfl path).symm

end RequestSpans.Pattern
