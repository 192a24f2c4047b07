import RequestSpans.Proofs.Pattern.Language

set_option autoImplicit false

namespace RequestSpans.Pattern

theorem crosses_token {s next : Reading} {c : Char} {word : List Char} {token : Token} (plain : s.flags = .default)
    (read : ∀ more, more = [] ∨ Stops more → Token.read? .default (c :: (word ++ more)) = some (token, more))
    (fed : s.feed? token = some next) : Crosses s (c :: word) next := by
  intro fuel more f ends run
  have skipped : s.flags.skip (c :: (word ++ more)) = c :: (word ++ more) := by rw [plain]; rfl
  rw [List.length_cons, Nat.add_right_comm, List.cons_append, Reading.run?, skipped]
  simp only [plain, read more ends, fed, Option.bind_some]
  exact run_longer fuel word.length next f more run

-- No question mark follows, so none belongs to the repetition.
theorem prefers_nothing {more : List Char} (ends : more = [] ∨ Stops more) : Token.dropPreference more = more := by
  rcases ends with rfl | ⟨c, rest, rfl, stop⟩
  · rfl
  · simp only [List.mem_cons, List.not_mem_nil, or_false] at stop
    rcases stop with rfl | rfl | rfl <;> rfl

theorem fits_alone [Engine] {word : List Char} {names : List String} {branches : List (Nested Pattern)} (fits : Fits word names branches)
    (text : String) (shape : text.toList = word) :
    parse? text = if (Group.choice branches).depth ≤ depthLimit ∧ Engine.fits (Group.choice branches).value
      then some (Group.choice branches).value else none := by
  obtain ⟨e, crosses, adds⟩ := fits .start rfl rfl (by simp [Reading.start])
  have run := crosses_alone crosses
  have closed : e.outer.isEmpty = true := by rw [adds.outer]; rfl
  rw [← shape, String.length_toList] at run
  simp only [parse?, run, Option.bind_some, closed, if_true, adds_finish adds rfl]

theorem walks_capture {word : List Char} {branches : List (Nested Pattern)} (fits : Fits word [] branches)
    (first : ∀ more, (word ++ ')' :: more).head? ≠ some '?') (names : List String) (group : Group) (outer : List Group) :
    Walks ⟨.default, names, group, outer⟩ ('(' :: (word ++ [')'])) ⟨.default, names, { group with
      items := ⟨⟨.captured (Group.choice branches).value, (Group.choice branches).depth + 1⟩, true⟩ :: group.items }, outer⟩ := by
  obtain ⟨s', crosses, adds⟩ := fits ⟨.default, names, .start .default true, group :: outer⟩ rfl rfl (by simp)
  have closing := walks_closing s' ⟨.default, names, group, outer⟩ adds.flags adds.outer true adds.parenthesis
  rw [adds_finish adds rfl, adds.names] at closing
  intro fuel more f run
  have inside := crosses_walks crosses (by decide) closing fuel more f run
  have spelled : ('(' :: (word ++ [')'])) ++ more = '(' :: (word ++ ')' :: more) := by simp
  have count : ('(' :: (word ++ [')'])).length + fuel = (word ++ [')']).length + fuel + 1 := by
    rw [List.length_cons]
    omega
  rw [spelled, count]
  refine run_capture _ ⟨.default, names, group, outer⟩ f _ rfl (first more) ?_
  rw [List.append_assoc] at inside
  exact inside

def literal (text : List Char) : Nested Pattern := Group.sequence (text.reverse.map letter)

theorem escape_fits (text : List Char) : Fits (Skip.escape text) [] [literal text] := by
  rintro ⟨_, names, group, outer⟩ rfl empty _
  refine ⟨_, walks_crosses (walks_escape text names group outer), rfl, rfl, rfl, rfl, ?_⟩
  simp only [Group.alternatives, literal, show group.items = [] from empty, List.append_nil]
  rfl

def unbroken : Item := ⟨⟨.one (.compl (.single '\n')), 0⟩, true⟩

def anything : Item := ⟨⟨.repeated (.one (.compl (.single '\n'))) 0 none, 1⟩, true⟩

def lower : Item := ⟨⟨.captured (Group.sequence [anything, letter '/']).value, 3⟩, true⟩

def underneath : Item := ⟨⟨.repeated lower.pattern.value 0 (some 1), 4⟩, true⟩

def amid (names : List String) (group : Group) (outer : List Group) (items : List Item) : Reading :=
  ⟨.default, names, { group with items := items ++ group.items }, outer⟩

theorem anything_fits : Fits "/.*".toList [] [Group.sequence [anything, letter '/']] := by
  rintro ⟨_, names, group, outer⟩ rfl empty _
  have slash : Walks (amid names group outer []) ['/'] (amid names group outer [letter '/']) := walks_letter '/' names group outer
  have dot : Walks (amid names group outer [letter '/']) ['.'] (amid names group outer [unbroken, letter '/']) :=
    walks_token rfl (fun _ => rfl) rfl
  have star : Crosses (amid names group outer [unbroken, letter '/']) ['*'] (amid names group outer [anything, letter '/']) :=
    crosses_token rfl (fun more ends => congrArg (fun rest => some (Token.repetition 0 none, rest)) (prefers_nothing ends)) rfl
  refine ⟨_, walks_onward (walks_append slash dot) star, rfl, rfl, rfl, rfl, ?_⟩
  simp only [Group.alternatives, amid, show group.items = [] from empty]
  rfl

def exposedText (path : List Char) (names : List (List Char)) : List Char :=
  Skip.escape path ++ '(' :: (Text.join '|' (names.map Skip.escape) ++ ")(/.*)?".toList)

def eitherOf (names : List (List Char)) : Item :=
  let choice := Group.choice (names.reverse.map literal)
  ⟨⟨.captured choice.value, choice.depth + 1⟩, true⟩

def exposed (path : List Char) (names : List (List Char)) : Nested Pattern :=
  Group.sequence (underneath :: eitherOf names :: path.reverse.map letter)

theorem exposed_fits (path : List Char) (names : List (List Char)) (some_ : names ≠ []) :
    Fits (exposedText path names) [] [exposed path names] := by
  rintro ⟨_, known, group, outer⟩ rfl empty _
  have alternatives := join_fits Skip.escape (fun _ => ([] : List String)) (fun name => [literal name]) names some_
    (fun name _ => escape_fits name) (by rw [List.flatMap_eq_nil_iff.mpr fun _ _ => rfl]; exact List.nodup_nil)
  rw [List.flatMap_eq_nil_iff.mpr fun _ _ => rfl, ← List.map_eq_flatMap] at alternatives
  have text : Walks (amid known group outer []) (Skip.escape path) (amid known group outer (path.reverse.map letter)) :=
    walks_escape path known group outer
  have first : Walks (amid known group outer (path.reverse.map letter)) _
      (amid known group outer (eitherOf names :: path.reverse.map letter)) :=
    walks_capture alternatives (fun more => escaped_first names (')' :: more) '?' (by decide) (by decide) (by simp)) known _ outer
  have second : Walks (amid known group outer (eitherOf names :: path.reverse.map letter)) _
      (amid known group outer (lower :: eitherOf names :: path.reverse.map letter)) :=
    walks_capture anything_fits (fun more => by simp) known _ outer
  have maybe : Crosses (amid known group outer (lower :: eitherOf names :: path.reverse.map letter)) ['?']
      (amid known group outer (underneath :: eitherOf names :: path.reverse.map letter)) :=
    crosses_token rfl (fun more ends => congrArg (fun rest => some (Token.repetition 0 (some 1), rest)) (prefers_nothing ends)) rfl
  have whole := walks_onward (walks_append text (walks_append first second)) maybe
  have spelled : exposedText path names = Skip.escape path ++ ('(' :: (Text.join '|' (names.map Skip.escape) ++ [')']) ++
      '(' :: ("/.*".toList ++ [')'])) ++ ['?'] := by
    simp [exposedText]
  rw [spelled]
  refine ⟨_, whole, rfl, rfl, rfl, rfl, ?_⟩
  simp only [Group.alternatives, amid, show group.items = [] from empty, List.append_nil]
  rfl

theorem literal_denotes (text : List Char) : Denotes (literal text).value (· = text) := by
  have letters := letters_denote text [] denotes_empty
  rw [List.append_nil] at letters
  exact denotes_same letters fun word => by simp

theorem anything_mem (c : Char) : (CharSet.compl (.single '\n')).mem c.toNat = true ↔ c ≠ '\n' := by
  rw [CharSet.mem, Bool.not_eq_true', ← Bool.not_eq_true, single_mem]

theorem underneath_denotes :
    Denotes underneath.pattern.value fun word => word = [] ∨ ∃ tail, word = '/' :: tail ∧ '\n' ∉ tail := by
  have line := sequence_denotes_cons anything [letter '/'] (denotes_letter '/') (denotes_many (.compl (.single '\n')))
  refine denotes_same (denotes_optional line) fun word => or_congr_right ?_
  simp only [anything_mem]
  constructor
  · rintro ⟨_, tail, rfl, free, rfl⟩
    exact ⟨tail, rfl, fun member => free _ member rfl⟩
  · rintro ⟨tail, rfl, free⟩
    exact ⟨['/'], tail, rfl, fun c member same => free (same ▸ member), rfl⟩

theorem exposed_denotes (path : List Char) (names : List (List Char)) (some_ : names ≠ []) :
    Denotes (exposed path names).value fun word =>
      ∃ name ∈ names, ∃ rest, word = path ++ name ++ rest ∧ (rest = [] ∨ ∃ tail, rest = '/' :: tail ∧ '\n' ∉ tail) := by
  have named : Denotes (eitherOf names).pattern.value fun word => ∃ name ∈ names.reverse, word = name :=
    choice_denotes literal (fun name word => word = name) names.reverse (by simpa using some_) fun name _ => literal_denotes name
  have letters := literal_denotes path
  refine denotes_same (sequence_denotes_cons underneath _ (sequence_denotes_cons (eitherOf names) _ letters named)
    underneath_denotes) fun word => ?_
  constructor
  · rintro ⟨_, rest, ⟨_, name, rfl, ⟨_, known, rfl⟩, rfl⟩, ends, rfl⟩
    exact ⟨name, List.mem_reverse.mp known, rest, rfl, ends⟩
  · rintro ⟨name, known, rest, rfl, ends⟩
    exact ⟨path ++ name, rest, ⟨path, name, rfl, ⟨name, List.mem_reverse.mpr known, rfl⟩, rfl⟩, ends, rfl⟩

theorem foldl_max_le (depths : List Nat) (start most : Nat) (first : start ≤ most) (each : ∀ depth ∈ depths, depth ≤ most) :
    depths.foldl max start ≤ most := by
  induction depths generalizing start with
  | nil => exact first
  | cons depth rest ih =>
      exact ih _ (Nat.max_le.mpr ⟨first, each depth List.mem_cons_self⟩) fun other known =>
        each other (List.mem_cons_of_mem depth known)

theorem sequence_depth (items : List Item) (most : Nat) (each : ∀ item ∈ items, item.pattern.depth ≤ most) :
    (Group.sequence items).depth ≤ most + 1 := by
  match items with
  | [] => exact Nat.zero_le _
  | [item] => exact Nat.le_succ_of_le (each item List.mem_cons_self)
  | first :: next :: rest =>
      have deepest := foldl_max_le ((first :: next :: rest).map (·.pattern.depth)) 0 most (Nat.zero_le _) (by
        intro depth known
        obtain ⟨item, member, rfl⟩ := List.mem_map.mp known
        exact each item member)
      rw [Group.sequence, Nat.add_comm]
      exact Nat.succ_le_succ deepest
      all_goals simp

theorem choice_depth (branches : List (Nested Pattern)) (most : Nat) (each : ∀ branch ∈ branches, branch.depth ≤ most) :
    (Group.choice branches).depth ≤ most + 1 := by
  match branches with
  | [] => exact Nat.zero_le _
  | [branch] => exact Nat.le_succ_of_le (each branch List.mem_cons_self)
  | last :: next :: rest =>
      have deepest := foldl_max_le ((next :: rest).map (·.depth)) 0 most (Nat.zero_le _) (by
        intro depth known
        obtain ⟨branch, member, rfl⟩ := List.mem_map.mp known
        exact each branch (List.mem_cons_of_mem last member))
      have front := each last List.mem_cons_self
      simp only [Group.choice]
      omega

theorem exposed_depth (path : List Char) (names : List (List Char)) : (exposed path names).depth ≤ 5 := by
  have letters : ∀ text : List Char, ∀ item ∈ text.reverse.map letter, item.pattern.depth ≤ 0 := by
    intro text item known
    obtain ⟨c, _, rfl⟩ := List.mem_map.mp known
    exact Nat.le_refl 0
  have choice := choice_depth (names.reverse.map literal) 1 fun branch known => by
    obtain ⟨name, _, rfl⟩ := List.mem_map.mp known
    exact sequence_depth _ 0 (letters name)
  refine sequence_depth _ 4 fun item known => ?_
  rcases List.mem_cons.mp known with rfl | known
  · exact Nat.le_refl 4
  rcases List.mem_cons.mp known with rfl | known
  · exact Nat.le_succ_of_le (Nat.succ_le_succ choice)
  · exact Nat.le_trans (letters path item known) (Nat.zero_le 4)

end RequestSpans.Pattern
