import RequestSpans.Proofs.Pattern.Class

set_option autoImplicit false

namespace RequestSpans.Pattern

theorem read_flags_more (more : List Char) (items : List Char) (text : List Char) (found : List Char) (c : Char)
    (rest : List Char) (read : Flags.read? items text = some (found, c, rest)) :
    Flags.read? items (text ++ more) = some (found, c, rest ++ more) := by
  induction text generalizing items with
  | nil => simp [Flags.read?] at read
  | cons d text ih =>
      simp only [Flags.read?, List.cons_append] at read ⊢
      split at read
      · rename_i ends
        rw [if_pos ends]
        split at read
        · contradiction
        · rename_i complete
          obtain ⟨rfl, rfl, rfl⟩ := by simpa using read
          rw [if_neg complete]
      · rename_i onward
        rw [if_neg onward]
        split at read
        · rename_i flag
          rw [if_pos flag]
          exact ih _ read
        · contradiction

namespace Token

def Plain : Token → Prop
  | .repetition _ _ | .atom _ => True
  | _ => False

-- A token is read the same in a text that goes on. If the text is over in the
-- middle of a comment behind it, the token has nothing to do with flags.
structure Reads (flags : Flags) (more text : List Char) (token : Token) (rest left : List Char) : Prop where
  read : Token.read? flags (text ++ more) = some (token, left)
  leaves : left = rest ++ more ∨ token.Plain ∧ Leaves flags more rest left

theorem read_name_more (more text rest : List Char) (token : Token) (read : Token.readName? text = some (token, rest)) :
    Token.readName? (text ++ more) = some (token, rest ++ more) := by
  unfold Token.readName? at read ⊢
  dsimp only at read ⊢
  cases dropped : text.dropWhile (· ≠ '>') with
  | nil =>
      rw [dropped] at read
      cases named : text.takeWhile (· ≠ '>') <;> rw [named] at read <;> contradiction
  | cons c last =>
      obtain ⟨again, name⟩ := drop_while_more _ text more c last dropped
      rw [dropped] at read
      rw [again, name]
      cases named : text.takeWhile (· ≠ '>') with
      | nil =>
          rw [named] at read
          contradiction
      | cons first others =>
          rw [named] at read
          dsimp only at read ⊢
          split at read
          · rename_i spelled
            obtain ⟨rfl, rfl⟩ := Prod.mk.inj (Option.some.inj read)
            rw [if_pos spelled]
          · contradiction

def readFlagged? (text : List Char) : Option (Token × List Char) :=
  match Flags.read? [] text with
  | some (items, ':', rest) => some (.opening (.plain items), rest)
  | some ([], _, _) => none
  | some (items, _, rest) => some (.flags items, rest)
  | none => none

def readKind? (text : List Char) : Option (Token × List Char) :=
  match text with
  | '?' :: 'P' :: '<' :: rest => Token.readName? rest
  | '?' :: '<' :: '=' :: _ | '?' :: '<' :: '!' :: _ => none
  | '?' :: '<' :: rest => Token.readName? rest
  | '?' :: rest => readFlagged? rest
  | text => some (.opening .capture, text)

theorem read_group_kind (flags : Flags) (text : List Char) : Token.readGroup? flags text = readKind? (flags.skip text) := rfl

theorem read_flagged_more (more text rest : List Char) (token : Token) (read : readFlagged? text = some (token, rest)) :
    readFlagged? (text ++ more) = some (token, rest ++ more) := by
  unfold readFlagged? at read ⊢
  rcases flagged : Flags.read? [] text with none_ | ⟨items, c, last⟩
  · simp [flagged] at read
  · rw [flagged] at read
    rw [read_flags_more more [] text items c last flagged]
    by_cases colon : c = ':'
    · subst colon
      obtain ⟨rfl, rfl⟩ := Prod.mk.inj (Option.some.inj read)
      rfl
    · cases items with
      | nil => simp at read
      | cons item others =>
          simp only at read ⊢
          obtain ⟨rfl, rfl⟩ := Prod.mk.inj (Option.some.inj read)
          rfl

theorem read_kind_more (more : List Char) (c : Char) (text rest : List Char) (token : Token)
    (read : readKind? (c :: text) = some (token, rest)) :
    readKind? (c :: (text ++ more)) = some (token, rest ++ more) := by
  by_cases asks : c = '?'
  · subst asks
    cases text with
    | nil => contradiction
    | cons d last =>
        by_cases angle : d = '<'
        · subst angle
          cases last with
          | nil => contradiction
          | cons e final =>
              by_cases ahead : e = '=' ∨ e = '!'
              · rcases ahead with rfl | rfl <;> contradiction
              · obtain ⟨equal, bang⟩ := not_or.mp ahead
                simp only [readKind?, List.cons_append, List.cons.injEq, equal, bang, false_and, imp_self,
                  implies_true] at read ⊢
                exact read_name_more more (e :: final) rest token read
        · by_cases letter : d = 'P'
          · subst letter
            cases last with
            | nil => contradiction
            | cons e final =>
                by_cases bracket : e = '<'
                · subst bracket
                  exact read_name_more more final rest token read
                · have flagless : readFlagged? ('P' :: e :: final) = none := rfl
                  simp [readKind?, bracket, flagless] at read
          · simp only [readKind?, List.cons_append, List.cons.injEq, angle, letter, false_and, imp_self,
              implies_true] at read ⊢
            exact read_flagged_more more (d :: last) rest token read
  · simp only [readKind?, List.cons.injEq, asks, false_and, imp_self, implies_true] at read ⊢
    obtain ⟨rfl, rfl⟩ := Prod.mk.inj (Option.some.inj read)
    rfl

theorem take_digits_more (flags : Flags) (more : List Char) (comment : Bool) (text digits : List Char) (c : Char)
    (rest : List Char) (taken : takeDigits flags comment text = (digits, c :: rest)) :
    takeDigits flags comment (text ++ more) = (digits, c :: (rest ++ more)) := by
  induction text generalizing comment digits with
  | nil => cases comment <;> simp [takeDigits] at taken
  | cons d text ih =>
      cases comment with
      | true =>
          simp only [takeDigits, List.cons_append] at taken ⊢
          exact ih _ digits taken
      | false =>
          simp only [takeDigits, List.cons_append] at taken ⊢
          by_cases digit : d.isDigit = true
          · rw [if_pos digit] at taken ⊢
            obtain ⟨rfl, left⟩ := Prod.mk.inj taken
            rw [ih false _ (Prod.ext rfl left)]
          · rw [if_neg digit] at taken ⊢
            split at taken
            · rename_i blank
              rw [if_pos blank]
              exact ih _ digits taken
            · rename_i blank
              rw [if_neg blank]
              split at taken
              · rename_i hash
                rw [if_pos hash]
                exact ih _ digits taken
              · rename_i hash
                rw [if_neg hash]
                obtain ⟨rfl, same⟩ := Prod.mk.inj taken
                obtain ⟨rfl, rfl⟩ := List.cons.inj same
                rfl

theorem read_count_more (flags : Flags) (more : List Char) (text : List Char) (count? : Option Nat) (c : Char)
    (rest : List Char) (read : readCount flags text = (count?, c :: rest)) :
    readCount flags (text ++ more) = (count?, c :: (rest ++ more)) := by
  unfold readCount at read ⊢
  rcases taken : takeDigits flags false (text.dropWhile Named.isBlankChar) with ⟨digits, last⟩
  rw [taken] at read
  obtain ⟨rfl, left⟩ := Prod.mk.inj read
  cases last with
  | nil => simp at left
  | cons d last =>
      cases dropped : text.dropWhile Named.isBlankChar with
      | nil => simp [dropped, takeDigits] at taken
      | cons e behind =>
          rw [dropped] at taken
          have again := take_digits_more flags more false (e :: behind) digits d last taken
          rw [List.cons_append] at again
          rw [(drop_while_more _ text more e behind dropped).1, again]
          have final := (drop_while_more _ (d :: last) more c rest left).1
          rw [List.cons_append] at final
          simp only [final]

section Readers

variable {more : List Char} (stops : Stops more) (flags : Flags)

include stops

theorem drop_preference_leaves (rest left : List Char) (leaves : Leaves flags more rest left) :
    Leaves flags more (dropPreference rest) (dropPreference left) := by
  cases leaves with
  | behind =>
      cases rest with
      | nil =>
          obtain ⟨c, last, rfl, known⟩ := stops
          simp only [List.mem_cons, List.not_mem_nil, or_false] at known
          rcases known with rfl | rfl | rfl <;> exact .behind []
      | cons c last =>
          by_cases lazy : c = '?'
          · subst lazy
            exact .behind last
          · simp only [dropPreference, List.cons_append, List.cons.injEq, lazy, false_and, imp_self, implies_true]
            exact .behind (c :: last)
  | swallowed _ blank within =>
      refine .swallowed _ blank ?_
      cases left with
      | nil => exact within
      | cons c last =>
          by_cases lazy : c = '?'
          · subst lazy
            exact (List.suffix_cons '?' last).trans within
          · simpa only [dropPreference, List.cons.injEq, lazy, false_and, imp_self, implies_true] using within

theorem close_count_reads (least : Nat) (most? : Option Nat) (text rest : List Char) (token : Token)
    (read : closeCount? flags least most? text = some (token, rest)) :
    ∃ left, closeCount? flags least most? (text ++ more) = some (token, left) ∧ token.Plain ∧ Leaves flags more rest left := by
  cases text with
  | nil => contradiction
  | cons c behind =>
      by_cases brace : c = '}'
      · subst brace
        simp only [closeCount?, List.cons_append] at read ⊢
        split at read
        · rename_i bounded
          obtain ⟨rfl, rfl⟩ := Prod.mk.inj (Option.some.inj read)
          rw [if_pos bounded]
          exact ⟨_, rfl, trivial, drop_preference_leaves stops flags _ _ (skip_leaves stops flags behind)⟩
        · contradiction
      · simp [closeCount?, brace] at read

theorem read_repetition_reads (text rest : List Char) (token : Token)
    (read : readRepetition? flags text = some (token, rest)) :
    ∃ left, readRepetition? flags (text ++ more) = some (token, left) ∧ token.Plain ∧ Leaves flags more rest left := by
  unfold readRepetition? at read ⊢
  cases skipped : flags.skip text with
  | nil => simp [skipped] at read
  | cons c behind =>
      rw [skipped] at read
      rw [skip_cons flags text more c behind skipped]
      dsimp only at read ⊢
      rcases counted : readCount flags (c :: behind) with ⟨least?, last⟩
      rw [counted] at read
      obtain ⟨least, rfl, read⟩ := Option.bind_eq_some_iff.mp read
      cases last with
      | nil => simp [closeCount?] at read
      | cons d last =>
          have again := read_count_more flags more _ _ d last counted
          rw [List.cons_append] at again
          simp only [again, Option.bind_some]
          by_cases comma : d = ','
          · subst comma
            simp only at read ⊢
            cases onward : flags.skip last with
            | nil => simp [onward, readCount, takeDigits] at read
            | cons e final =>
                rw [onward] at read
                rw [skip_cons flags last more e final onward]
                by_cases brace : e = '}'
                · subst brace
                  exact close_count_reads stops flags least none ('}' :: final) rest token read
                · simp only [List.cons.injEq, brace, false_and, imp_self, implies_true] at read ⊢
                  rcases bounded : readCount flags (e :: final) with ⟨most?, behind⟩
                  rw [bounded] at read
                  obtain ⟨most, rfl, read⟩ := Option.bind_eq_some_iff.mp read
                  cases behind with
                  | nil => simp [closeCount?] at read
                  | cons f ending =>
                      have bound := read_count_more flags more _ _ f ending bounded
                      rw [List.cons_append] at bound
                      simp only [bound, Option.bind_some]
                      exact close_count_reads stops flags least (some most) (f :: ending) rest token read
          · simp only [List.cons.injEq, comma, false_and, imp_self, implies_true] at read ⊢
            exact close_count_reads stops flags least (some least) (d :: last) rest token read

omit stops in
theorem atom_of_reads (primitive : Primitive) (rest behind left : List Char) (token : Token)
    (leaves : Leaves flags more behind left)
    (read : atomOf? flags primitive behind = some (token, rest)) :
    ∃ last, atomOf? flags primitive left = some (token, last) ∧ token.Plain ∧ Leaves flags more rest last := by
  obtain ⟨pattern, known, same⟩ := Option.map_eq_some_iff.mp read
  obtain ⟨rfl, rfl⟩ := Prod.mk.inj same
  exact ⟨left, by rw [atomOf?, known]; rfl, trivial, leaves⟩

-- Only the bracket of a group may be read as another token, if nothing comes
-- behind it.
theorem read_reads (text rest : List Char) (token : Token) (read : Token.read? flags text = some (token, rest)) :
    token = .opening .capture ∧ rest = [] ∨ ∃ left, Reads flags more text token rest left := by
  have plainly : ∀ again, (∃ left, again = some (token, left) ∧ token.Plain ∧ Leaves flags more rest left) →
      Token.read? flags (text ++ more) = again → ∃ left, Reads flags more text token rest left := by
    rintro again ⟨left, rfl, plain, leaves⟩ same
    exact ⟨left, same, .inr ⟨plain, leaves⟩⟩
  fun_cases Token.read? flags text
  case case1 => contradiction
  case case2 behind =>
    cases skipped : flags.skip behind with
    | nil =>
        have opened : Token.read? flags ('(' :: behind) = readKind? [] := by
          rw [← skipped]
          rfl
        obtain ⟨rfl, rfl⟩ := Prod.mk.inj (Option.some.inj (opened.symm.trans read))
        exact .inl ⟨rfl, rfl⟩
    | cons c last =>
        have opened : ∀ more, Token.read? flags ('(' :: (behind ++ more)) = readKind? (c :: (last ++ more)) := by
          intro more
          rw [← skip_cons flags behind more c last skipped]
          rfl
        have kind := opened []
        rw [List.append_nil, List.append_nil, read] at kind
        exact .inr ⟨_, (opened more).trans (read_kind_more more c last rest token kind.symm), .inl rfl⟩
  case case5 behind =>
    obtain ⟨⟨set, last⟩, known, same⟩ := Option.map_eq_some_iff.mp read
    obtain ⟨rfl, rfl⟩ := Prod.mk.inj same
    refine .inr ⟨last ++ more, ?_, .inl rfl⟩
    exact Option.map_eq_some_iff.mpr ⟨_, Bracket.read_more stops flags behind last set known, rfl⟩
  case case9 behind => exact .inr (plainly _ (read_repetition_reads stops flags behind rest token read) rfl)
  case case10 behind =>
    obtain ⟨⟨primitive, last⟩, known, read⟩ := Option.bind_eq_some_iff.mp read
    obtain ⟨left, again, leaves⟩ := Primitive.read_escape_leaves stops flags behind last primitive known
    refine .inr (plainly _ (atom_of_reads flags primitive rest last left token leaves read) ?_)
    simp only [List.cons_append, Token.read?, again, Option.bind_some]
  case case11 behind => exact .inr (plainly _ (atom_of_reads flags .dot rest _ _ token (.behind behind) read) rfl)
  case case12 behind => exact .inr (plainly _ (atom_of_reads flags .lineStart rest _ _ token (.behind behind) read) rfl)
  case case13 behind => exact .inr (plainly _ (atom_of_reads flags .lineEnd rest _ _ token (.behind behind) read) rfl)
  case case14 c behind _ _ _ _ _ _ _ _ _ _ _ _ =>
    simp only [Token.read?] at read
    refine .inr (plainly _ (atom_of_reads flags (.literal c false) rest _ _ token (.behind behind) read) ?_)
    simp only [List.cons_append, Token.read?]
  -- A bracket that closes or a bar, which is all there is to the token, or a
  -- repetition with its preference.
  case case3 | case4 =>
    obtain ⟨rfl, rfl⟩ := Prod.mk.inj (Option.some.inj read)
    exact .inr ⟨_, rfl, .inl rfl⟩
  all_goals
    obtain ⟨rfl, rfl⟩ := Prod.mk.inj (Option.some.inj read)
    exact .inr ⟨_, rfl, .inr ⟨trivial, drop_preference_leaves stops flags _ _ (.behind _)⟩⟩

end Readers

end Token

end RequestSpans.Pattern
