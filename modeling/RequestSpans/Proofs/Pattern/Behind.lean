import RequestSpans.Pattern.Parser

set_option autoImplicit false

namespace RequestSpans.Pattern

-- What follows a part of a pattern begins with a character that cannot belong to
-- that part.
def Stops (more : List Char) : Prop := ∃ c rest, more = c :: rest ∧ c ∈ [')', '|', '$']

-- What a reader leaves of a text, against what it leaves of the longer text.
inductive Leaves (flags : Flags) (more : List Char) : List Char → List Char → Prop
  | behind (rest : List Char) : Leaves flags more rest (rest ++ more)
  | swallowed (left : List Char) (blank : flags.ignoreSpace = true) (within : left <:+ skipBlanks true more) :
      Leaves flags more [] left

theorem leaves_cons (flags : Flags) (more : List Char) (c : Char) (rest left : List Char)
    (leaves : Leaves flags more (c :: rest) left) : left = c :: (rest ++ more) := by
  cases leaves
  rfl

theorem skip_blanks_cons (comment : Bool) (text more : List Char) (c : Char) (rest : List Char)
    (skipped : skipBlanks comment text = c :: rest) : skipBlanks comment (text ++ more) = c :: (rest ++ more) := by
  induction text generalizing comment with
  | nil => cases comment <;> simp [skipBlanks] at skipped
  | cons d text ih =>
      cases comment with
      | true => exact ih _ skipped
      | false =>
          simp only [skipBlanks, List.cons_append] at skipped ⊢
          split at skipped
          · rw [if_pos ‹_›]
            exact ih _ skipped
          · rw [if_neg ‹_›]
            split at skipped
            · rw [if_pos ‹_›]
              exact ih _ skipped
            · rw [if_neg ‹_›]
              obtain ⟨rfl, rfl⟩ := List.cons.inj skipped
              rfl

theorem skip_cons (flags : Flags) (text more : List Char) (c : Char) (rest : List Char)
    (skipped : flags.skip text = c :: rest) : flags.skip (text ++ more) = c :: (rest ++ more) := by
  unfold Flags.skip at skipped ⊢
  split
  · rw [if_pos ‹_›] at skipped
    exact skip_blanks_cons false text more c rest skipped
  · rw [if_neg ‹_›] at skipped
    rw [skipped, List.cons_append]

theorem skip_nothing (flags : Flags) : flags.skip [] = [] := by
  unfold Flags.skip
  split <;> rfl

theorem skip_length (flags : Flags) (text : List Char) : (flags.skip text).length ≤ text.length := by
  have blanks : ∀ comment, (skipBlanks comment text).length ≤ text.length := by
    induction text with
    | nil => intro comment; cases comment <;> simp [skipBlanks]
    | cons c rest ih =>
        intro comment
        cases comment with
        | true => exact Nat.le_succ_of_le (ih _)
        | false =>
            simp only [skipBlanks]
            split
            · exact Nat.le_succ_of_le (ih _)
            · split
              · exact Nat.le_succ_of_le (ih _)
              · exact Nat.le_refl _
  unfold Flags.skip
  split
  · exact blanks false
  · exact Nat.le_refl _

theorem skip_blanks_again (comment : Bool) (text : List Char) :
    skipBlanks false (skipBlanks comment text) = skipBlanks comment text := by
  induction text generalizing comment with
  | nil => cases comment <;> rfl
  | cons c rest ih =>
      cases comment with
      | true => exact ih _
      | false =>
          simp only [skipBlanks]
          split
          · exact ih _
          · split
            · exact ih _
            · simp only [skipBlanks]
              rw [if_neg ‹_›, if_neg ‹_›]

theorem skip_again (flags : Flags) (text : List Char) : flags.skip (flags.skip text) = flags.skip text := by
  unfold Flags.skip
  split
  · exact skip_blanks_again false text
  · rfl

theorem blank_alphanumeric : (Named.isBlankChar ')' || Named.isBlankChar '|' || Named.isBlankChar '$') = false := by
  decide +kernel

section Readers

variable {more : List Char} (stops : Stops more) (flags : Flags)

include stops

theorem stops_blank : skipBlanks false more = more := by
  obtain ⟨c, rest, rfl, known⟩ := stops
  have plain := blank_alphanumeric
  simp only [Bool.or_eq_false_iff] at plain
  obtain ⟨⟨closing, bar⟩, ending⟩ := plain
  simp only [List.mem_cons, List.not_mem_nil, or_false] at known
  rcases known with rfl | rfl | rfl
  · simp [skipBlanks, closing]
  · simp [skipBlanks, bar]
  · simp [skipBlanks, ending]

theorem stops_skip : flags.skip more = more := by
  unfold Flags.skip
  split
  · exact stops_blank stops
  · rfl

theorem skip_blanks_leaves (comment : Bool) (text : List Char) :
    skipBlanks comment (text ++ more) = skipBlanks comment text ++ more ∨
      skipBlanks comment text = [] ∧ skipBlanks comment (text ++ more) = skipBlanks true more := by
  induction text generalizing comment with
  | nil =>
      cases comment with
      | true => exact .inr ⟨rfl, rfl⟩
      | false => exact .inl (stops_blank stops)
  | cons c text ih =>
      cases comment with
      | true => exact ih _
      | false =>
          simp only [skipBlanks, List.cons_append]
          split
          · exact ih _
          · split
            · exact ih _
            · exact .inl rfl

theorem skip_leaves (text : List Char) : Leaves flags more (flags.skip text) (flags.skip (text ++ more)) := by
  unfold Flags.skip
  split
  · rcases skip_blanks_leaves stops false text with same | ⟨gone, swallowed⟩
    · rw [same]
      exact .behind _
    · rw [gone, swallowed]
      exact .swallowed _ ‹_› (List.suffix_refl _)
  · exact .behind _

end Readers

theorem take_braced_more (flags : Flags) (more : List Char) (fuel fuel' : Nat) (text taken rest : List Char)
    (enough : fuel ≤ fuel') (read : takeBraced flags fuel text = some (taken, rest)) :
    takeBraced flags fuel' (text ++ more) = some (taken, rest ++ more) := by
  induction fuel generalizing fuel' text taken with
  | zero => simp [takeBraced] at read
  | succ fuel ih =>
      obtain ⟨fuel', rfl⟩ : ∃ n, fuel' = n + 1 := ⟨fuel' - 1, by omega⟩
      simp only [takeBraced] at read ⊢
      split at read
      · contradiction
      · rename_i behind skipped
        obtain ⟨rfl, rfl⟩ := by simpa using read
        rw [skip_cons flags text more _ _ skipped]
        rfl
      · rename_i c behind brace skipped
        obtain ⟨⟨others, left⟩, deeper, whole⟩ := Option.map_eq_some_iff.mp read
        obtain ⟨rfl, rfl⟩ := Prod.mk.inj whole
        rw [skip_cons flags text more _ _ skipped]
        split
        · contradiction
        · rename_i again
          obtain ⟨rfl, rfl⟩ := List.cons.inj again
          exact absurd rfl brace
        · rename_i again
          obtain ⟨rfl, rfl⟩ := List.cons.inj again
          rw [ih fuel' behind others (by omega) deeper]
          rfl

theorem drop_while_more (p : Char → Bool) (text more : List Char) (c : Char) (rest : List Char)
    (dropped : text.dropWhile p = c :: rest) :
    (text ++ more).dropWhile p = c :: (rest ++ more) ∧ (text ++ more).takeWhile p = text.takeWhile p := by
  induction text with
  | nil => simp at dropped
  | cons d text ih =>
      by_cases drops : p d = true
      · simp only [List.dropWhile_cons, List.takeWhile_cons, List.cons_append, drops, if_true] at dropped ⊢
        exact ⟨(ih dropped).1, by rw [(ih dropped).2]⟩
      · simp only [List.dropWhile_cons, List.takeWhile_cons, List.cons_append, drops, Bool.false_eq_true, if_false] at dropped ⊢
        obtain ⟨rfl, rfl⟩ := List.cons.inj dropped
        exact ⟨rfl, trivial⟩

theorem drop_while_over (p : Char → Bool) (text more : List Char) (dropped : text.dropWhile p = []) :
    (text ++ more).dropWhile p = more.dropWhile p ∧ (text ++ more).takeWhile p = text ++ more.takeWhile p := by
  induction text with
  | nil => exact ⟨rfl, rfl⟩
  | cons d text ih =>
      by_cases drops : p d = true
      · simp only [List.dropWhile_cons, List.takeWhile_cons, List.cons_append, drops, if_true] at dropped ⊢
        exact ⟨(ih dropped).1, by rw [(ih dropped).2]⟩
      · simp [drops] at dropped

namespace Primitive

section Readers

variable {more : List Char} (stops : Stops more) (flags : Flags)

include stops

theorem hex_digits_leaves (count : Nat) (text text' digits rest : List Char) (leaves : Leaves flags more text text')
    (read : hexDigits? flags count text = some (digits, rest)) :
    ∃ left, hexDigits? flags count text' = some (digits, left) ∧ Leaves flags more rest left := by
  induction count generalizing text text' digits with
  | zero =>
      obtain ⟨rfl, rfl⟩ := by simpa [hexDigits?] using read
      exact ⟨text', rfl, leaves⟩
  | succ count ih =>
      cases text with
      | nil => simp [hexDigits?] at read
      | cons c behind =>
          obtain rfl := leaves_cons flags more c behind text' leaves
          simp only [hexDigits?] at read ⊢
          split at read
          · rw [if_pos ‹_›]
            obtain ⟨⟨others, last⟩, deeper, whole⟩ := Option.map_eq_some_iff.mp read
            obtain ⟨rfl, rfl⟩ := Prod.mk.inj whole
            obtain ⟨left, again, left_leaves⟩ := ih _ _ others (skip_leaves stops flags behind) deeper
            exact ⟨left, by rw [again]; rfl, left_leaves⟩
          · contradiction

theorem read_hex_leaves (width : Nat) (text rest : List Char) (primitive : Primitive)
    (read : readHex? flags width text = some (primitive, rest)) :
    ∃ left, readHex? flags width (text ++ more) = some (primitive, left) ∧ Leaves flags more rest left := by
  have leaves := skip_leaves stops flags text
  unfold readHex? at read ⊢
  cases skipped : flags.skip text with
  | nil =>
      -- Without a digit there is no character.
      rw [skipped] at read
      cases width <;> simp [hexDigits?, hexChar?] at read
  | cons c behind =>
      rw [skipped] at read leaves
      rw [skip_cons flags text more c behind skipped] at leaves ⊢
      by_cases brace : c = '{'
      · subst brace
        obtain ⟨⟨digits, last⟩, braced, read⟩ := Option.bind_eq_some_iff.mp read
        obtain ⟨c, known, read⟩ := Option.bind_eq_some_iff.mp read
        obtain ⟨rfl, rfl⟩ := by simpa using read
        refine ⟨flags.skip (last ++ more), ?_, skip_leaves stops flags last⟩
        have again := take_braced_more flags more _ ((behind ++ more).length + 1) behind digits last (by simp) braced
        simp only [again, Option.bind_eq_bind, Option.bind_some, known]
      · simp only [List.cons.injEq, brace, false_and, imp_self, implies_true] at read ⊢
        obtain ⟨⟨digits, last⟩, digital, read⟩ := Option.bind_eq_some_iff.mp read
        obtain ⟨c, known, read⟩ := Option.bind_eq_some_iff.mp read
        obtain ⟨rfl, rfl⟩ := by simpa using read
        obtain ⟨left, again, left_leaves⟩ := hex_digits_leaves stops flags width _ _ digits last leaves digital
        refine ⟨left, ?_, left_leaves⟩
        simp only [again, Option.bind_eq_bind, Option.bind_some, known]

theorem read_property_leaves (negated : Bool) (text rest : List Char) (primitive : Primitive)
    (read : readProperty? flags negated text = some (primitive, rest)) :
    ∃ left, readProperty? flags negated (text ++ more) = some (primitive, left) ∧ Leaves flags more rest left := by
  unfold readProperty? at read ⊢
  cases skipped : flags.skip text with
  | nil =>
      rw [skipped] at read
      contradiction
  | cons c behind =>
      rw [skipped] at read
      rw [skip_cons flags text more c behind skipped]
      by_cases escape : c = '\\'
      · subst escape
        contradiction
      · by_cases brace : c = '{'
        · subst brace
          obtain ⟨⟨name, last⟩, braced, read⟩ := Option.bind_eq_some_iff.mp read
          obtain ⟨set, known, read⟩ := Option.bind_eq_some_iff.mp read
          obtain ⟨rfl, rfl⟩ := by simpa using read
          refine ⟨last ++ more, ?_, .behind last⟩
          have again := take_braced_more flags more _ ((behind ++ more).length + 1) behind name last (by simp) braced
          simp only [again, Option.bind_eq_bind, Option.bind_some, known]
        · simp only at read ⊢
          obtain ⟨set, known, read⟩ := Option.bind_eq_some_iff.mp read
          obtain ⟨rfl, rfl⟩ := by simpa using read
          refine ⟨_, ?_, skip_leaves stops flags behind⟩
          simp only [Option.bind_eq_bind, Option.bind_some, known]

theorem read_boundary_leaves (text rest : List Char) (primitive : Primitive)
    (read : readBoundary? flags text = some (primitive, rest)) :
    readBoundary? flags (text ++ more) = some (primitive, rest ++ more) := by
  unfold readBoundary? at read ⊢
  cases text with
  | nil =>
      obtain ⟨c, last, rfl, known⟩ := stops
      obtain ⟨rfl, rfl⟩ := by simpa using read
      simp only [List.mem_cons, List.not_mem_nil, or_false] at known
      rcases known with rfl | rfl | rfl <;> rfl
  | cons c behind =>
      by_cases brace : c = '{'
      · subst brace
        simp only [List.cons_append] at read ⊢
        cases skipped : flags.skip behind with
        | nil =>
            rw [skipped] at read
            contradiction
        | cons d last =>
            rw [skipped] at read
            rw [skip_cons flags behind more d last skipped]
            by_cases named : isBoundaryNameChar d = true
            · simp only [named, if_true] at read ⊢
              obtain ⟨⟨name, final⟩, braced, read⟩ := Option.bind_eq_some_iff.mp read
              obtain ⟨boundary, known, read⟩ := Option.bind_eq_some_iff.mp read
              obtain ⟨rfl, rfl⟩ := by simpa using read
              have again := take_braced_more flags more _ ((behind ++ more).length + 1) behind name final (by simp) braced
              simp only [again, Option.bind_eq_bind, Option.bind_some, known]
            · simp only [named, Bool.false_eq_true, if_false] at read ⊢
              obtain ⟨rfl, rfl⟩ := by simpa using read
              rfl
      · simp only [List.cons_append, List.cons.injEq, brace, false_and, imp_self, implies_true] at read ⊢
        obtain ⟨rfl, rfl⟩ := by simpa using read
        rfl

theorem read_escape_leaves (text rest : List Char) (primitive : Primitive)
    (read : readEscape? flags text = some (primitive, rest)) :
    ∃ left, readEscape? flags (text ++ more) = some (primitive, left) ∧ Leaves flags more rest left := by
  fun_cases readEscape? flags text
  case case1 => contradiction
  case case2 => exact read_hex_leaves stops flags 2 _ rest primitive read
  case case3 => exact read_hex_leaves stops flags 4 _ rest primitive read
  case case4 => exact read_hex_leaves stops flags 8 _ rest primitive read
  case case5 => exact read_property_leaves stops flags false _ rest primitive read
  case case6 => exact read_property_leaves stops flags true _ rest primitive read
  case case21 => exact ⟨_, read_boundary_leaves stops flags _ rest primitive read, .behind rest⟩
  case case25 escapable =>
    simp only [readEscape?, escapable, if_true, Option.some.injEq, Prod.mk.injEq] at read
    obtain ⟨rfl, rfl⟩ := read
    exact ⟨_, by simp only [List.cons_append, readEscape?, escapable, if_true], .behind _⟩
  case case26 plain =>
    simp only [readEscape?, plain] at read
    contradiction
  all_goals
    obtain ⟨rfl, rfl⟩ := Prod.mk.inj (Option.some.inj read)
    exact ⟨_, rfl, .behind _⟩

end Readers

end Primitive

end RequestSpans.Pattern
