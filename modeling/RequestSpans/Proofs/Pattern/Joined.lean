import RequestSpans.Proofs.Pattern.Anywhere

set_option autoImplicit false

namespace RequestSpans.Pattern

def Group.choice : List (Nested Pattern) → Nested Pattern
  | [] => ⟨.empty, 0⟩
  | [branch] => branch
  | last :: branches =>
    ⟨branches.foldl (fun behind branch => .alt branch.value behind) last.value,
      1 + max last.depth ((branches.map (·.depth)).foldl max 0)⟩

theorem finish_choice (group : Group) : group.finish = Group.choice group.alternatives := by
  unfold Group.finish Group.alternatives
  cases group.branches <;> rfl

theorem adds_finish {names : List String} {branches : List (Nested Pattern)} {s s' : Reading} (adds : Adds names branches s s')
    (fresh : s.group.branches = []) : s'.group.finish = Group.choice branches := by
  rw [finish_choice, adds.alternatives, fresh, List.append_nil]

section Crossing

variable {s t u : Reading} {word next : List Char}

theorem walks_crosses (walks : Walks s word t) : Crosses s word t := fun fuel more f _ run => walks fuel more f run

theorem walks_onward (walks : Walks s word t) (crosses : Crosses t next u) : Crosses s (word ++ next) u := by
  intro fuel more f ends run
  rw [List.length_append, Nat.add_assoc, List.append_assoc]
  exact walks _ _ f (crosses fuel more f ends run)

theorem crosses_alone (crosses : Crosses s word t) : Reading.run? word.length s word = some t := by
  have run := crosses 0 [] t (.inl rfl) (run_over 0 t [] (skip_nothing _))
  rw [Nat.add_zero, List.append_nil] at run
  exact run

theorem crosses_onward {c : Char} (crosses : Crosses s word t) (stop : c ∈ [')', '|', '$'])
    (onward : Crosses t (c :: next) u) : Crosses s (word ++ c :: next) u := by
  intro fuel more f ends run
  rw [List.length_append, Nat.add_assoc, List.append_assoc]
  exact crosses _ _ f (.inr ⟨c, next ++ more, rfl, stop⟩) (onward fuel more f ends run)

theorem crosses_walks {c : Char} (crosses : Crosses s word t) (stop : c ∈ [')', '|', '$'])
    (onward : Walks t (c :: next) u) : Walks s (word ++ c :: next) u := by
  intro fuel more f run
  rw [List.length_append, Nat.add_assoc, List.append_assoc]
  exact crosses _ _ f (.inr ⟨c, next ++ more, rfl, stop⟩) (onward fuel more f run)

end Crossing

def Fits (word : List Char) (names : List String) (branches : List (Nested Pattern)) : Prop :=
  ∀ s : Reading, s.flags = .default → s.group.items = [] → (∀ name ∈ names, name ∉ s.names) →
    ∃ s', Crosses s word s' ∧ Adds names branches s s'

def Encloses (word : List Char) (names : List String) (inner : Nested Pattern) : Prop :=
  ∀ s : Reading, s.flags = .default → (∀ name ∈ names, name ∉ s.names) →
    Crosses s (grouped word) ⟨.default, names ++ s.names, { s.group with items := ⟨inner, true⟩ :: s.group.items }, s.outer⟩

theorem contained_fits {word : List Char} {e : Reading} (contained : Contained word e) :
    Fits word e.names e.group.alternatives :=
  fun s plain empty free => contained_crosses contained s plain empty free

-- The members are read in turn, and the names of each have to be free of those
-- before it.
theorem join_fits {α : Type} (word : α → List Char) (names : α → List String) (branches : α → List (Nested Pattern))
    (members : List α) (some_ : members ≠ []) (fits : ∀ member ∈ members, Fits (word member) (names member) (branches member))
    (distinct : (members.reverse.flatMap names).Nodup) :
    Fits (Text.join '|' (members.map word)) (members.reverse.flatMap names) (members.reverse.flatMap branches) := by
  induction members with
  | nil => contradiction
  | cons first rest ih =>
      have here := fits first List.mem_cons_self
      cases rest with
      | nil => simpa [Text.join] using here
      | cons next others =>
          intro s plain empty free
          have turned : (first :: next :: others).reverse = (next :: others).reverse ++ [first] := List.reverse_cons
          simp only [turned, List.flatMap_append, List.flatMap_singleton] at distinct free ⊢
          obtain ⟨apart, _, disjoint⟩ := List.nodup_append.mp distinct
          obtain ⟨s₁, crosses₁, adds₁⟩ := here s plain empty fun name known => free name (List.mem_append_right _ known)
          have bar : Walks s₁ ['|'] ⟨.default, s₁.names,
              { s₁.group with branches := s₁.group.alternatives, items := [] }, s₁.outer⟩ :=
            walks_token adds₁.flags (fun _ => rfl) (by rw [← adds₁.flags]; rfl)
          have behind := ih (by simp) (fun other known => fits other (List.mem_cons_of_mem first known)) apart
          obtain ⟨s₂, crosses₂, adds₂⟩ := behind ⟨.default, s₁.names,
            { s₁.group with branches := s₁.group.alternatives, items := [] }, s₁.outer⟩ rfl rfl (by
              intro name known
              rw [adds₁.names, List.mem_append, not_or]
              exact ⟨fun again => disjoint name known name again rfl, free name (List.mem_append_left _ known)⟩)
          refine ⟨s₂, crosses_onward crosses₁ (by decide) (walks_onward bar crosses₂), adds₂.flags, ?_,
            adds₂.outer.trans adds₁.outer, adds₂.parenthesis.trans adds₁.parenthesis, ?_⟩
          · rw [adds₂.names, adds₁.names, List.append_assoc]
          · rw [adds₂.alternatives, adds₁.alternatives, List.append_assoc]

theorem walks_opening (s : Reading) (plain : s.flags = .default) :
    Walks s ['(', '?', ':'] ⟨.default, s.names, .start .default false, s.group :: s.outer⟩ :=
  walks_token plain (fun _ => rfl) (by rw [← plain]; rfl)

theorem walks_closing (s below : Reading) (plain : s.flags = .default) (outer : s.outer = below.group :: below.outer)
    (captures : Bool) (parenthesis : s.group.parenthesis = ⟨.default, captures⟩) :
    Walks s [')'] ⟨.default, s.names, { below.group with
      items := ⟨Parenthesis.around ⟨.default, captures⟩ s.group.finish, true⟩ :: below.group.items }, below.outer⟩ := by
  refine walks_token plain (fun _ => rfl) ?_
  simp only [Reading.feed?, Reading.closeGroup?, outer, parenthesis]

theorem fits_encloses {word : List Char} {names : List String} {branches : List (Nested Pattern)} (fits : Fits word names branches) :
    Encloses word names ⟨(Group.choice branches).value, (Group.choice branches).depth + 1⟩ := by
  intro s plain free
  obtain ⟨s', crosses, adds⟩ := fits ⟨.default, s.names, .start .default false, s.group :: s.outer⟩ rfl rfl free
  have closing := walks_closing s' s adds.flags adds.outer false adds.parenthesis
  rw [adds_finish adds rfl, adds.names] at closing
  exact walks_crosses (walks_append (walks_opening s plain) (crosses_walks crosses (by decide) closing))

theorem encloses_fits {word : List Char} {names : List String} {inner : Nested Pattern} (encloses : Encloses word names inner) :
    Fits (grouped word) names [inner] := by
  intro s plain empty free
  refine ⟨_, encloses s plain free, rfl, rfl, rfl, rfl, ?_⟩
  simp [Group.alternatives, empty, Group.sequence]

theorem encloses_grouped {word : List Char} {names : List String} {inner : Nested Pattern}
    (encloses : Encloses word names inner) : Encloses (grouped word) names ⟨inner.value, inner.depth + 1⟩ :=
  fits_encloses (encloses_fits encloses)

theorem reading_encloses {word : List Char} {e : Reading} (contained : Contained (grouped word) e) (inner : Nested Pattern)
    (single : e.group.branches = []) (item : e.group.items = [⟨inner, true⟩]) : Encloses word e.names inner := by
  intro s plain free
  obtain ⟨s', crosses, flags, names, outer, extended⟩ := contained_onward contained s plain free
  have group : s'.group = { s.group with items := ⟨inner, true⟩ :: s.group.items } := by
    generalize e.group = alone at extended single item
    generalize s'.group = group' at extended ⊢
    cases extended with
    | first items flags =>
        obtain rfl : items = [⟨inner, true⟩] := item
        rfl
    | later branches first items flags => simp at single
  have whole : s' = ⟨.default, e.names ++ s.names, { s.group with items := ⟨inner, true⟩ :: s.group.items }, s.outer⟩ := by
    rw [← group, ← outer, ← names, ← flags]
  rw [← whole]
  exact crosses

def between (pattern : Pattern) : Pattern := .cat (.assert .textStart) (.cat pattern (.cat (.assert .textEnd) .empty))

theorem encloses_anchored [Engine] {word : List Char} {names : List String} {inner : Nested Pattern}
    (encloses : Encloses word names inner) (text : String) (shape : text.toList = anchored word) :
    parse? text = if inner.depth + 1 ≤ depthLimit ∧ Engine.fits (between inner.value)
      then some (between inner.value) else none := by
  have start : Walks .start ['^'] (Reading.start.addItem (anchor .textStart)) := walks_token rfl (fun _ => rfl) rfl
  have inside := encloses (Reading.start.addItem (anchor .textStart)) rfl (by simp [Reading.start, Reading.addItem])
  have stop : Walks ⟨.default, names ++ [], ⟨[], [⟨inner, true⟩, anchor .textStart], ⟨.default, false⟩⟩, []⟩ ['$']
      ⟨.default, names ++ [], ⟨[], [anchor .textEnd, ⟨inner, true⟩, anchor .textStart], ⟨.default, false⟩⟩, []⟩ :=
    walks_token rfl (fun _ => rfl) rfl
  have whole := crosses_alone (walks_crosses (walks_append start (crosses_walks inside (by decide) stop)))
  have length : text.length = (anchored word).length := by rw [← shape, String.length_toList]
  have spelled : anchored word = ['^'] ++ (grouped word ++ ['$']) := rfl
  rw [← spelled] at whole
  have depth : 1 + max (max (max 0 0) inner.depth) 0 = inner.depth + 1 := by simp [Nat.add_comm]
  rw [parse?, shape, length, whole, ← depth]
  rfl

section Members

variable {α : Type} (word : α → List Char) (e : α → Reading) (members : List α) (some_ : members ≠ [])
  (contained : ∀ member ∈ members, Contained (word member) (e member))

include some_ contained

theorem join_names (fuel : Nat) (s f : Reading) (more : List Char) (plain : s.flags = .default) (stops : Stops more)
    (run : Reading.run? fuel s (Text.join '|' (members.map word) ++ more) = some f) :
    ∃ left s', Reading.run? left s' more = some f ∧
      s'.names = (members.reverse.flatMap fun member => (e member).names) ++ s.names := by
  induction members generalizing fuel s with
  | nil => contradiction
  | cons first rest ih =>
      have here := contained first List.mem_cons_self
      cases rest with
      | nil =>
          obtain ⟨left, s', onward, -, names, -⟩ := contained_under here plain stops fuel run
          exact ⟨left, s', onward, by simpa using names⟩
      | cons next others =>
          have shape : Text.join '|' ((first :: next :: others).map word) ++ more =
              word first ++ '|' :: (Text.join '|' ((next :: others).map word) ++ more) := by simp [Text.join]
          rw [shape] at run
          obtain ⟨left, s₁, onward, flags, names, -, -⟩ := contained_under here plain ⟨'|', _, rfl, by decide⟩ fuel run
          obtain ⟨left, onward⟩ := run_token left s₁ f _ _ .bar _ _ flags rfl rfl onward
          obtain ⟨left, s₂, onward, behind⟩ :=
            ih (by simp) (fun other known => contained other (List.mem_cons_of_mem first known)) left _ (by exact flags) onward
          refine ⟨left, s₂, onward, behind.trans ?_⟩
          have turned : (first :: next :: others).reverse = (next :: others).reverse ++ [first] := List.reverse_cons
          rw [turned, List.flatMap_append, List.flatMap_singleton, List.append_assoc]
          exact congrArg _ names

theorem joined_parse [Engine] (text : String) (shape : text.toList = anchored (Text.join '|' (members.map word))) :
    let names := members.reverse.flatMap fun member => (e member).names
    let whole := Group.choice (members.reverse.flatMap fun member => (e member).group.alternatives)
    parse? text = if names.Nodup ∧ whole.depth + 2 ≤ depthLimit ∧ Engine.fits (between whole.value)
      then some (between whole.value) else none := by
  intro names whole
  by_cases distinct : names.Nodup
  · have fits := join_fits word (fun member => (e member).names) (fun member => (e member).group.alternatives) members some_
      (fun member known => contained_fits (contained member known)) distinct
    rw [encloses_anchored (fits_encloses fits) text shape]
    simp only [distinct, true_and]
    rfl
  · rw [if_neg fun both => distinct both.1]
    refine Option.eq_none_iff_forall_ne_some.mpr fun pattern read => distinct ?_
    obtain ⟨f, run, -, -⟩ := parsed_reading text pattern read
    rw [shape] at run
    obtain ⟨-, unique⟩ := run_names _ .start f _ run
    obtain ⟨left, run⟩ := run_start _ f _ run
    have opened : grouped (Text.join '|' (members.map word)) ++ ['$'] =
        '(' :: '?' :: ':' :: (Text.join '|' (members.map word) ++ ')' :: ['$']) := by simp [grouped]
    rw [opened] at run
    obtain ⟨left, inside⟩ := run_group_opened left _ f _ rfl run
    obtain ⟨left, s', onward, found⟩ := join_names word e members some_ contained left _ f _ rfl ⟨')', _, rfl, by decide⟩ inside
    obtain ⟨within, -⟩ := run_names left s' f _ onward
    rw [found] at within
    exact (List.nodup_append.mp ((unique List.nodup_nil).sublist within.sublist)).1

end Members

end RequestSpans.Pattern
