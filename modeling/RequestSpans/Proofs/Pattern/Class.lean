import RequestSpans.Proofs.Pattern.Behind

set_option autoImplicit false

namespace RequestSpans.Pattern

namespace Bracket

theorem read_hyphens_more (flags : Flags) (more : List Char) (fuel fuel' : Nat) (text : List Char)
    (items : List (Nested CharSet)) (c : Char) (rest : List Char) (enough : text.length ≤ fuel) (wider : fuel ≤ fuel')
    (read : readHyphens flags fuel text = (items, c :: rest)) :
    readHyphens flags fuel' (text ++ more) = (items, c :: (rest ++ more)) := by
  induction fuel generalizing fuel' text items with
  | zero =>
      obtain rfl : text = [] := List.eq_nil_of_length_eq_zero (Nat.le_zero.mp enough)
      simp [readHyphens] at read
  | succ fuel ih =>
      obtain ⟨fuel', rfl⟩ : ∃ n, fuel' = n + 1 := ⟨fuel' - 1, by omega⟩
      cases text with
      | nil => simp [readHyphens] at read
      | cons d behind =>
          by_cases hyphen : d = '-'
          · subst hyphen
            simp only [readHyphens, List.cons_append, Prod.mk.injEq] at read ⊢
            obtain ⟨rfl, deeper⟩ := read
            have shorter := skip_length flags behind
            cases skipped : flags.skip behind with
            | nil => cases fuel <;> simp [skipped, readHyphens] at deeper
            | cons e last =>
                rw [skipped] at deeper shorter
                have again := ih fuel' (e :: last) _ (by simp at enough shorter ⊢; omega) (by omega)
                  (Prod.ext rfl deeper)
                rw [List.cons_append] at again
                rw [skip_cons flags behind more e last skipped, again]
                exact ⟨rfl, rfl⟩
          · simp only [readHyphens, List.cons_append, List.cons.injEq, hyphen, false_and, imp_self, implies_true,
              Prod.mk.injEq] at read ⊢
            obtain ⟨rfl, rfl, rfl⟩ := read
            exact ⟨rfl, rfl, rfl⟩

def readFirst? (flags : Flags) (negated : Bool) (text : List Char) : Option (Bool × List (Nested CharSet) × List Char) :=
  let (hyphens, text) := readHyphens flags text.length text
  let (items, text) := match hyphens, text with
    | [], ']' :: rest => ([(⟨.single ']', 0⟩ : Nested CharSet)], flags.skip rest)
    | _, _ => (hyphens, text)
  if text.isEmpty then none else some (negated, items, text)

theorem read_opening_first (flags : Flags) (text : List Char) :
    readOpening? flags text =
      match flags.skip text with
      | '^' :: rest => readFirst? flags true (flags.skip rest)
      | text => readFirst? flags false text := by
  unfold readOpening?
  cases flags.skip text with
  | nil => rfl
  | cons c rest =>
      by_cases negated : c = '^'
      · subst negated
        rfl
      · simp only [List.cons.injEq, negated, false_and, imp_self, implies_true]
        rfl

theorem read_first_none (flags : Flags) (negated : Bool) : readFirst? flags negated [] = none := by
  simp [readFirst?, readHyphens]

theorem read_first_more (flags : Flags) (more : List Char) (negated sign : Bool) (text : List Char)
    (items : List (Nested CharSet)) (rest : List Char) (read : readFirst? flags negated text = some (sign, items, rest)) :
    readFirst? flags negated (text ++ more) = some (sign, items, rest ++ more) ∧ rest ≠ [] := by
  unfold readFirst? at read ⊢
  rcases hyphenated : readHyphens flags text.length text with ⟨hyphens, left⟩
  rw [hyphenated] at read
  cases left with
  | nil => cases hyphens <;> simp at read
  | cons d last =>
      have again := read_hyphens_more flags more text.length (text ++ more).length text hyphens d last (Nat.le_refl _) (by simp)
        hyphenated
      rw [again]
      cases hyphens with
      | cons hyphen others =>
          simp only [List.isEmpty_cons, Bool.false_eq_true, if_false, Option.some.injEq, Prod.mk.injEq] at read ⊢
          obtain ⟨rfl, rfl, rfl⟩ := read
          simp
      | nil =>
          by_cases closing : d = ']'
          · subst closing
            cases skipped : flags.skip last with
            | nil => simp [skipped] at read
            | cons e final =>
                simp only [skipped, List.isEmpty_cons, Bool.false_eq_true, if_false, Option.some.injEq, Prod.mk.injEq] at read
                obtain ⟨rfl, rfl, rfl⟩ := read
                simp [skip_cons flags last more e final skipped]
          · simp only [List.cons.injEq, closing, false_and, imp_self, implies_true, List.isEmpty_cons, Bool.false_eq_true,
              if_false, Option.some.injEq, Prod.mk.injEq] at read ⊢
            obtain ⟨rfl, rfl, rfl⟩ := read
            simp

theorem read_opening_more (flags : Flags) (more : List Char) (sign : Bool) (text : List Char) (items : List (Nested CharSet))
    (rest : List Char) (read : readOpening? flags text = some (sign, items, rest)) :
    readOpening? flags (text ++ more) = some (sign, items, rest ++ more) ∧ rest ≠ [] := by
  rw [read_opening_first] at read ⊢
  cases skipped : flags.skip text with
  | nil => simp [skipped, read_first_none] at read
  | cons c behind =>
      rw [skipped] at read
      rw [skip_cons flags text more c behind skipped]
      by_cases negated : c = '^'
      · subst negated
        cases onward : flags.skip behind with
        | nil => simp [onward, read_first_none] at read
        | cons d last =>
            simp only [onward] at read
            simp only [skip_cons flags behind more d last onward]
            exact read_first_more flags more true sign (d :: last) items rest read
      · simp only [List.cons.injEq, negated, false_and, imp_self, implies_true] at read ⊢
        exact read_first_more flags more false sign (c :: behind) items rest read

theorem ascii_class_letters (name : String) (set : Ranges) (known : Named.asciiClass? name = some set) :
    ∀ c ∈ name.toList, c.isAlpha = true := by
  have letters : name.toList.all Char.isAlpha = true := by
    unfold Named.asciiClass? at known
    split at known
    all_goals first | rfl | contradiction
  exact List.all_eq_true.mp letters

def readName? (flags : Flags) (negated : Bool) (text : List Char) : Option (Option CharSet × List Char) :=
  match text.dropWhile (· ≠ ':') with
  | ':' :: ']' :: behind =>
    (Named.asciiClass? (String.ofList (text.takeWhile (· ≠ ':')))).map fun set =>
      (Primitive.negateSet? flags negated (Primitive.foldSet flags (.listed set)), behind)
  | _ => none

theorem read_named_name (flags : Flags) (text : List Char) :
    readNamed? flags text =
      match text with
      | ':' :: '^' :: rest => readName? flags true rest
      | ':' :: rest => readName? flags false rest
      | _ => none := by
  unfold readNamed?
  split
  · rename_i rest
    cases rest with
    | nil => rfl
    | cons c behind =>
        by_cases negated : c = '^'
        · subst negated
          rfl
        · simp only [List.cons.injEq, negated, false_and, imp_self, implies_true]
          rfl
  · rename_i plain
    split
    · exact absurd rfl (plain _)
    · exact absurd rfl (plain _)
    · rfl

section Readers

variable {more : List Char} (stops : Stops more) (flags : Flags)

include stops

theorem read_name_more (negated : Bool) (text : List Char) :
    readName? flags negated (text ++ more) = (readName? flags negated text).map fun found => (found.1, found.2 ++ more) := by
  obtain ⟨c, rest, rfl, known⟩ := stops
  have plain : c ≠ ':' ∧ c ≠ ']' ∧ c.isAlpha = false := by
    simp only [List.mem_cons, List.not_mem_nil, or_false] at known
    rcases known with rfl | rfl | rfl <;> decide
  obtain ⟨colon, closing, letter⟩ := plain
  unfold readName?
  cases dropped : text.dropWhile (· ≠ ':') with
  | nil =>
      obtain ⟨again, name⟩ := drop_while_over _ text (c :: rest) dropped
      rw [again, name]
      split
      · cases found : Named.asciiClass? (String.ofList (text ++ (c :: rest).takeWhile (· ≠ ':'))) with
        | none => rfl
        | some set =>
            have letters := ascii_class_letters _ set found c (by simp [colon])
            rw [letter] at letters
            contradiction
      · rfl
  | cons d last =>
      obtain ⟨again, name⟩ := drop_while_more _ text (c :: rest) d last dropped
      rw [again, name]
      by_cases ends : d = ':' ∧ ∃ behind, last = ']' :: behind
      · obtain ⟨rfl, behind, rfl⟩ := ends
        simp only [List.cons_append, Option.map_map]
        rfl
      · -- The bracket would have to stand right behind the colon.
        have unclosed : ∀ behind, d :: (last ++ c :: rest) ≠ ':' :: ']' :: behind := by
          intro behind same
          obtain ⟨first, others⟩ := List.cons.inj same
          cases last with
          | nil => exact closing (List.cons.inj others).1
          | cons e final =>
              obtain ⟨rfl, _⟩ := List.cons.inj others
              exact ends ⟨first, final, rfl⟩
        have unclosed' : ∀ behind, d :: last ≠ ':' :: ']' :: behind := by
          intro behind same
          obtain ⟨first, others⟩ := List.cons.inj same
          exact ends ⟨first, behind, others⟩
        split
        · exact absurd ‹_› (unclosed _)
        · rfl

theorem read_named_more (text : List Char) :
    readNamed? flags (text ++ more) = (readNamed? flags text).map fun found => (found.1, found.2 ++ more) := by
  have name := fun negated => read_name_more stops flags negated
  obtain ⟨c, rest, rfl, known⟩ := stops
  have plain : c ≠ ':' ∧ c ≠ '^' := by
    simp only [List.mem_cons, List.not_mem_nil, or_false] at known
    rcases known with rfl | rfl | rfl <;> decide
  rw [read_named_name, read_named_name]
  cases text with
  | nil => simp [plain.1]
  | cons d behind =>
      by_cases colon : d = ':'
      · subst colon
        cases behind with
        | nil => simpa [plain.2] using name false []
        | cons e last =>
            by_cases negated : e = '^'
            · subst negated
              exact name true last
            · simpa [negated] using name false (e :: last)
      · simp [colon]

theorem read_item_leaves (text rest : List Char) (item : Primitive) (read : readItem? flags text = some (item, rest)) :
    ∃ left, readItem? flags (text ++ more) = some (item, left) ∧ Leaves flags more rest left := by
  cases text with
  | nil => contradiction
  | cons c behind =>
      by_cases escape : c = '\\'
      · subst escape
        exact Primitive.read_escape_leaves stops flags behind rest item read
      · simp only [readItem?, List.cons_append] at read ⊢
        obtain ⟨rfl, rfl⟩ := by simpa using read
        exact ⟨_, rfl, .behind _⟩

theorem peek_more (text : List Char) (c : Char) (known : c = ']' ∨ c = '-') :
    peek flags (text ++ more) = some c ↔ peek flags text = some c := by
  have blanks := stops_blank stops
  obtain ⟨d, rest, rfl, member⟩ := stops
  have plain : d ≠ c ∧ d ≠ '#' := by
    simp only [List.mem_cons, List.not_mem_nil, or_false] at member
    rcases member with rfl | rfl | rfl <;> rcases known with rfl | rfl <;> decide
  have solid : Named.isBlankChar d = false := by
    have blank := blank_alphanumeric
    simp only [Bool.or_eq_false_iff] at blank
    simp only [List.mem_cons, List.not_mem_nil, or_false] at member
    rcases member with rfl | rfl | rfl
    · exact blank.1.1
    · exact blank.1.2
    · exact blank.2
  have head : ∀ text : List Char, ((text ++ d :: rest).dropWhile Named.isBlankChar).head? = some c ↔
      (text.dropWhile Named.isBlankChar).head? = some c := by
    intro text
    cases dropped : text.dropWhile Named.isBlankChar with
    | nil => simp [(drop_while_over _ text (d :: rest) dropped).1, solid, plain.1]
    | cons e last => simp [(drop_while_more _ text (d :: rest) e last dropped).1]
  unfold peek
  split
  · cases dropped : text.dropWhile Named.isBlankChar with
    | nil => simp [(drop_while_over _ text (d :: rest) dropped).1, solid, plain.1, plain.2]
    | cons e last =>
        rw [(drop_while_more _ text (d :: rest) e last dropped).1]
        by_cases comment : e = '#'
        · subst comment
          exact head last
        · simp [comment]
  · cases text with
    | nil => simp [plain.1]
    | cons e last => simp

theorem read_range_leaves (text rest : List Char) (set : CharSet) (read : readRange? flags text = some (set, rest)) :
    ∃ left, readRange? flags (text ++ more) = some (set, left) ∧ Leaves flags more rest left := by
  unfold readRange? at read ⊢
  obtain ⟨⟨first, behind⟩, known, read⟩ := Option.bind_eq_some_iff.mp read
  obtain ⟨left, again, leaves⟩ := read_item_leaves stops flags text behind first known
  simp only [again, Option.bind_eq_bind, Option.bind_some] at read ⊢
  cases skipped : flags.skip behind with
  | nil =>
      rw [skipped] at read
      contradiction
  | cons c last =>
      rw [skipped] at read
      -- The item does not end the text, so what is behind it has only grown longer.
      obtain rfl : left = behind ++ more := by
        cases leaves with
        | behind => rfl
        | swallowed => simp [Flags.skip, skipBlanks] at skipped
      rw [skip_cons flags behind more c last skipped]
      by_cases hyphen : c = '-'
      · subst hyphen
        simp only [peek_more stops flags last _ (.inl rfl), peek_more stops flags last _ (.inr rfl)] at read ⊢
        split at read
        · rw [if_pos ‹_›]
          obtain ⟨found, item, read⟩ := Option.bind_eq_some_iff.mp read
          obtain ⟨rfl, rfl⟩ := by simpa using read
          exact ⟨_, by simp only [item, Option.bind_some, List.cons_append], .behind ('-' :: last)⟩
        · rw [if_neg ‹_›]
          obtain ⟨⟨second, final⟩, other, read⟩ := Option.bind_eq_some_iff.mp read
          obtain ⟨low, lower, read⟩ := Option.bind_eq_some_iff.mp read
          obtain ⟨high, upper, read⟩ := Option.bind_eq_some_iff.mp read
          cases onward : flags.skip last with
          | nil =>
              rw [onward] at other
              contradiction
          | cons d ending =>
              rw [onward] at other
              obtain ⟨left, another, remains⟩ := read_item_leaves stops flags (d :: ending) final second other
              rw [List.cons_append, ← skip_cons flags last more d ending onward] at another
              simp only [another, Option.bind_some, lower, upper]
              split at read
              · obtain ⟨rfl, rfl⟩ := by simpa using read
                rw [if_pos ‹_›]
                exact ⟨left, rfl, remains⟩
              · contradiction
      · simp only [List.cons.injEq, hyphen, false_and, imp_self, implies_true] at read ⊢
        obtain ⟨found, item, read⟩ := Option.bind_eq_some_iff.mp read
        obtain ⟨rfl, rfl⟩ := by simpa using read
        exact ⟨_, by simp only [item, Option.bind_some, List.cons_append], .behind (c :: last)⟩

end Readers

def operator? (c d : Char) : Option Operator :=
  if c = '&' ∧ d = '&' then some .inter
  else if c = '-' ∧ d = '-' then some .diff
  else if c = '~' ∧ d = '~' then some .symmDiff
  else none

def readOperator? (c : Char) : List Char → Option (Operator × List Char)
  | [] => none
  | d :: rest => (operator? c d).map fun operator => (operator, rest)

theorem read_body_next (flags : Flags) (fuel : Nat) (frames : List Frame) (items : List (Nested CharSet)) (text : List Char)
    (c : Char) (behind : List Char) (skipped : flags.skip text = c :: behind) :
    readBody? flags (fuel + 1) frames items text =
      if c = '[' then
        match readNamed? flags behind with
        | some (some set, rest) => readBody? flags fuel frames (⟨set, 0⟩ :: items) rest
        | some (none, _) => none
        | none =>
          match readOpening? flags behind with
          | some (negated, inner, rest) => readBody? flags fuel (.enclosing items negated :: frames) inner rest
          | none => none
      else if c = ']' then
        match (settle flags (unite items) frames).2 with
        | .enclosing outer negated :: frames' =>
          match close? flags negated (settle flags (unite items) frames).1 with
          | some set => if frames'.isEmpty then some (set, behind) else readBody? flags fuel frames' (set :: outer) behind
          | none => none
        | _ => none
      else
        match readOperator? c behind with
        | some (operator, rest) =>
          readBody? flags fuel (.left operator (settle flags (unite items) frames).1 :: (settle flags (unite items) frames).2)
            [] rest
        | none =>
          match readRange? flags (c :: behind) with
          | some (set, rest) => readBody? flags fuel frames (⟨set, 0⟩ :: items) rest
          | none => none := by
  rw [readBody?, skipped]
  split
  · contradiction
  · rename_i same
    obtain ⟨rfl, rfl⟩ := List.cons.inj same
    rfl
  · rename_i same
    obtain ⟨rfl, rfl⟩ := List.cons.inj same
    rfl
  · rename_i same
    obtain ⟨rfl, rfl⟩ := List.cons.inj same
    rfl
  · rename_i same
    obtain ⟨rfl, rfl⟩ := List.cons.inj same
    rfl
  · rename_i same
    obtain ⟨rfl, rfl⟩ := List.cons.inj same
    rfl
  · rename_i opening closing inter diff symm
    have plain : readOperator? c behind = none := by
      cases behind with
      | nil => rfl
      | cons d last =>
          have none_ : operator? c d = none := by
            unfold operator?
            rw [if_neg, if_neg, if_neg]
            · rintro ⟨rfl, rfl⟩
              exact symm last rfl
            · rintro ⟨rfl, rfl⟩
              exact diff last rfl
            · rintro ⟨rfl, rfl⟩
              exact inter last rfl
          rw [readOperator?, none_]
          rfl
    rw [if_neg fun same => opening behind (congrArg (· :: behind) same),
      if_neg fun same => closing behind (congrArg (· :: behind) same)]
    generalize readOperator? c behind = found at plain ⊢
    subst plain
    rfl

theorem read_operator_more {more : List Char} (stops : Stops more) (c : Char) (behind : List Char) :
    readOperator? c (behind ++ more) = (readOperator? c behind).map fun found => (found.1, found.2 ++ more) := by
  cases behind with
  | cons d last => cases found : operator? c d <;> simp [readOperator?, found]
  | nil =>
      obtain ⟨d, rest, rfl, known⟩ := stops
      simp only [List.mem_cons, List.not_mem_nil, or_false] at known
      rcases known with rfl | rfl | rfl <;> simp [readOperator?, operator?]

theorem read_body_more {more : List Char} (stops : Stops more) (flags : Flags) (fuel fuel' : Nat) (frames : List Frame)
    (items : List (Nested CharSet)) (text rest : List Char) (set : Nested CharSet) (enough : fuel ≤ fuel')
    (read : readBody? flags fuel frames items text = some (set, rest)) :
    readBody? flags fuel' frames items (text ++ more) = some (set, rest ++ more) := by
  induction fuel generalizing fuel' frames items text with
  | zero => simp [readBody?] at read
  | succ fuel ih =>
      obtain ⟨fuel', rfl⟩ : ∃ n, fuel' = n + 1 := ⟨fuel' - 1, by omega⟩
      have fits : fuel ≤ fuel' := by omega
      cases skipped : flags.skip text with
      | nil =>
          rw [readBody?, skipped] at read
          contradiction
      | cons c behind =>
          rw [read_body_next flags fuel frames items text c behind skipped] at read
          rw [read_body_next flags fuel' frames items _ c _ (skip_cons flags text more c behind skipped)]
          by_cases opens : c = '['
          · rw [if_pos opens] at read ⊢
            rw [read_named_more stops flags behind]
            rcases named : readNamed? flags behind with none_ | ⟨none_ | known, last⟩
            · simp only [named] at read
              simp only [Option.map_none]
              rcases opening : readOpening? flags behind with none_ | ⟨negated, inner, last⟩
              · simp [opening] at read
              · simp only [opening] at read
                simp only [(read_opening_more flags more negated behind inner last opening).1]
                exact ih fuel' _ _ last fits read
            · simp [named] at read
            · simp only [named] at read
              exact ih fuel' _ _ last fits read
          · rw [if_neg opens] at read ⊢
            by_cases closes : c = ']'
            · rw [if_pos closes] at read ⊢
              split at read
              · split at read
                · split at read
                  · rename_i last
                    obtain ⟨rfl, rfl⟩ := by simpa using read
                    rw [if_pos last]
                  · rename_i inner
                    rw [if_neg inner]
                    exact ih fuel' _ _ behind fits read
                · contradiction
              · contradiction
            · rw [if_neg closes] at read ⊢
              rw [read_operator_more stops c behind]
              rcases joined : readOperator? c behind with none_ | ⟨operator, last⟩
              · simp only [joined] at read
                simp only [Option.map_none]
                rcases ranged : readRange? flags (c :: behind) with none_ | ⟨found, last⟩
                · simp [ranged] at read
                · simp only [ranged] at read
                  obtain ⟨left, again, leaves⟩ := read_range_leaves stops flags (c :: behind) last found ranged
                  -- There is no class without a closing bracket, so the text is not over.
                  cases leaves with
                  | behind =>
                      rw [List.cons_append] at again
                      simp only [again]
                      exact ih fuel' _ _ last fits read
                  | swallowed => cases fuel <;> simp [readBody?, Flags.skip, skipBlanks] at read
              · simp only [joined] at read
                exact ih fuel' _ _ last fits read

theorem read_more {more : List Char} (stops : Stops more) (flags : Flags) (text rest : List Char) (set : Nested CharSet)
    (read : Bracket.read? flags text = some (set, rest)) :
    Bracket.read? flags (text ++ more) = some (set, rest ++ more) := by
  unfold Bracket.read? at read ⊢
  obtain ⟨⟨negated, items, last⟩, opening, read⟩ := Option.bind_eq_some_iff.mp read
  simp only [(read_opening_more flags more negated text items last opening).1, Option.bind_eq_bind, Option.bind_some]
  exact read_body_more stops flags _ _ _ items last rest set (by simp) read

end Bracket

end RequestSpans.Pattern
