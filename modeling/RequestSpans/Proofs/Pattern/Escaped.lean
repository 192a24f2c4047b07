import RequestSpans.Proofs.Pattern.Part
import RequestSpans.Skip

set_option autoImplicit false

namespace RequestSpans.Pattern

theorem run_longer (fuel further : Nat) (s f : Reading) (text : List Char) (run : Reading.run? fuel s text = some f) :
    Reading.run? (further + fuel) s text = some f := by
  induction fuel generalizing s text with
  | zero =>
      cases skipped : s.flags.skip text with
      | nil =>
          obtain rfl := run_stays 0 s f text skipped run
          exact run_over _ s text skipped
      | cons c behind => simp [Reading.run?, skipped] at run
  | succ fuel ih =>
      cases skipped : s.flags.skip text with
      | nil =>
          obtain rfl := run_stays _ s f text skipped run
          exact run_over _ s text skipped
      | cons c behind =>
          obtain ⟨fewer, token, rest, next, same, read, fed, onward⟩ := run_step _ s f text c behind skipped run
          obtain rfl := Nat.succ.inj same
          rw [← Nat.add_assoc, Reading.run?, skipped]
          simp only [read, fed, Option.bind_some]
          exact ih next rest onward

-- Reading a word takes one state to the other, whatever follows.
def Walks (s : Reading) (word : List Char) (s' : Reading) : Prop :=
  ∀ (fuel : Nat) (more : List Char) (f : Reading), Reading.run? fuel s' more = some f →
    Reading.run? (word.length + fuel) s (word ++ more) = some f

theorem walks_nil (s : Reading) : Walks s [] s := by
  intro fuel more f run
  rw [List.length_nil, Nat.zero_add]
  exact run

theorem walks_append {s t u : Reading} {word next : List Char} (first : Walks s word t) (second : Walks t next u) :
    Walks s (word ++ next) u := by
  intro fuel more f run
  rw [List.length_append, Nat.add_assoc, List.append_assoc]
  exact first _ _ f (second fuel more f run)

theorem walks_token {s next : Reading} {c : Char} {word : List Char} {token : Token} (plain : s.flags = .default)
    (read : ∀ more, Token.read? .default (c :: (word ++ more)) = some (token, more)) (fed : s.feed? token = some next) :
    Walks s (c :: word) next := by
  intro fuel more f run
  have skipped : s.flags.skip (c :: (word ++ more)) = c :: (word ++ more) := by rw [plain]; rfl
  rw [List.length_cons, Nat.add_right_comm, List.cons_append, Reading.run?, skipped]
  simp only [plain, read, fed, Option.bind_some]
  exact run_longer fuel word.length next f more run

theorem read_literal (c : Char) (plain : Primitive.isMeta c = false) (more : List Char) :
    Token.read? .default (c :: more) = some (.atom ⟨.one (.single c), 0⟩, more) := by
  have other (d : Char) (special : Primitive.isMeta d = true) : c ≠ d := by
    rintro rfl
    rw [plain] at special
    contradiction
  rw [Token.read?]
  · rfl
  all_goals exact other _ (by decide)

theorem read_escaped (c : Char) (special : Primitive.isMeta c = true) (more : List Char) :
    Token.read? .default ('\\' :: c :: more) = some (.atom ⟨.one (.single c), 0⟩, more) := by
  have other (d : Char) (plain : Primitive.isMeta d = false) : c ≠ d := by
    rintro rfl
    rw [plain] at special
    contradiction
  rw [Token.read?, Primitive.readEscape?]
  · rw [if_pos (by rw [Primitive.isEscapable, special, Bool.true_or])]
    rfl
  all_goals exact other _ (by decide)

def letter (c : Char) : Item := ⟨⟨.one (.single c), 0⟩, true⟩

theorem walks_letter (c : Char) (names : List String) (group : Group) (outer : List Group) :
    Walks ⟨.default, names, group, outer⟩ (if Primitive.isMeta c then ['\\', c] else [c])
      ⟨.default, names, { group with items := letter c :: group.items }, outer⟩ := by
  split
  · rename_i special
    exact walks_token rfl (read_escaped c special) rfl
  · rename_i plain
    exact walks_token rfl (read_literal c (Bool.eq_false_iff.mpr plain)) rfl

theorem walks_escape (text : List Char) (names : List String) (group : Group) (outer : List Group) :
    Walks ⟨.default, names, group, outer⟩ (Skip.escape text)
      ⟨.default, names, { group with items := text.reverse.map letter ++ group.items }, outer⟩ := by
  induction text generalizing group with
  | nil => exact walks_nil _
  | cons c rest ih =>
      have behind := ih { group with items := letter c :: group.items }
      rw [List.reverse_cons, List.map_append, List.append_assoc]
      exact walks_append (walks_letter c names group outer) behind

theorem escape_head (text : List Char) (c : Char) (first : (Skip.escape text).head? = some c) :
    c = '\\' ∨ Primitive.isMeta c = false := by
  cases text with
  | nil => contradiction
  | cons d rest =>
      rw [Skip.escape, List.flatMap_cons] at first
      split at first
      · obtain rfl := Option.some.inj first
        exact .inl rfl
      · rename_i plain
        obtain rfl := Option.some.inj first
        exact .inr (Bool.eq_false_iff.mpr plain)

theorem join_head (words : List (List Char)) (c : Char) (first : (Text.join '|' words).head? = some c) :
    c = '|' ∨ ∃ word ∈ words, word.head? = some c := by
  cases words with
  | nil => contradiction
  | cons word rest =>
      cases rest with
      | nil => exact .inr ⟨word, List.mem_cons_self, first⟩
      | cons next others =>
          rw [Text.join] at first
          · cases word with
            | nil => exact .inl (Option.some.inj first).symm
            | cons d word => exact .inr ⟨_, List.mem_cons_self, first⟩
          · simp

theorem escaped_first (texts : List (List Char)) (more : List Char) (c : Char) (special : Primitive.isMeta c = true)
    (sign : c ∉ ['\\', '|']) (behind : more.head? ≠ some c) :
    (Text.join '|' (texts.map Skip.escape) ++ more).head? ≠ some c := by
  simp only [List.mem_cons, List.not_mem_nil, or_false, not_or] at sign
  intro first
  rw [List.head?_append, Option.or_eq_some_iff] at first
  rcases first with within | ⟨_, later⟩
  · rcases join_head _ c within with bar | ⟨word, known, front⟩
    · exact sign.2 bar
    · obtain ⟨text, _, rfl⟩ := List.mem_map.mp known
      rcases escape_head text c front with slash | plain
      · exact sign.1 slash
      · rw [special] at plain
        contradiction
  · exact behind later

theorem run_capture (fuel : Nat) (s f : Reading) (text : List Char) (plain : s.flags = .default)
    (first : text.head? ≠ some '?')
    (run : Reading.run? fuel ⟨.default, s.names, .start .default true, s.group :: s.outer⟩ text = some f) :
    Reading.run? (fuel + 1) s ('(' :: text) = some f := by
  have read : Token.read? .default ('(' :: text) = some (.opening .capture, text) := by
    rw [Token.read?, Token.read_group_kind]
    change Token.readKind? text = _
    unfold Token.readKind?
    split
    all_goals first | rfl | exact absurd rfl first
  have skipped : s.flags.skip ('(' :: text) = '(' :: text := by rw [plain]; rfl
  rw [Reading.run?, skipped]
  simp only [plain, read, Option.bind_some, Reading.feed?, Reading.openGroup?]
  exact run

end RequestSpans.Pattern
