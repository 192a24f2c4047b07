import RequestSpans.Proofs.Pattern.Joined

set_option autoImplicit false

namespace RequestSpans.Pattern

-- From a marked position on the pattern goes over the words of the language that
-- the text has there, and over nothing else.
def Denotes (pattern : Pattern) (language : List Char → Prop) : Prop :=
  ∀ (text : List Char) (marked j : Nat), (pattern.reach (Index.ofText text) marked).testBit j = true ↔
    ∃ i word, marked.testBit i = true ∧ language word ∧ word <+: text.drop i ∧ j = i + word.length

theorem denotes_same {pattern : Pattern} {language other : List Char → Prop} (denotes : Denotes pattern language)
    (same : ∀ word, language word ↔ other word) : Denotes pattern other := by
  obtain rfl : language = other := funext fun word => propext (same word)
  exact denotes

theorem denotes_whole {pattern : Pattern} {language : List Char → Prop} (denotes : Denotes pattern language) (text : String) :
    pattern.matchesWhole text = true ↔ language text.toList := by
  rw [matchesWhole, denotes]
  constructor
  · rintro ⟨i, word, start, known, within, size⟩
    obtain rfl : i = 0 := by
      by_cases first : i = 0
      · exact first
      · obtain ⟨k, rfl⟩ := Nat.exists_eq_succ_of_ne_zero first
        simp [Nat.testBit_succ] at start
    rw [Nat.zero_add] at size
    have whole : word = text.toList := within.eq_of_length size.symm
    rw [← whole]
    exact known
  · exact fun known => ⟨0, text.toList, rfl, known, List.prefix_rfl, (Nat.zero_add _).symm⟩

theorem between_matches (pattern : Pattern) (path : String) :
    (between pattern).matchesIn path = true ↔ pattern.matchesWhole path = true := by
  rw [← between_anchors]
  simp only [matchesIn, between, reach, place, Placed.reach, decide_eq_true_eq]

theorem prefix_append_drop (word next text : List Char) (i : Nat) :
    word ++ next <+: text.drop i ↔ word <+: text.drop i ∧ next <+: text.drop (i + word.length) := by
  rw [← List.drop_drop]
  constructor
  · rintro ⟨rest, whole⟩
    rw [← whole, List.append_assoc, List.drop_left]
    exact ⟨List.prefix_append _ _, List.prefix_append _ _⟩
  · rintro ⟨⟨rest, whole⟩, onward⟩
    rw [← whole, List.drop_left] at onward
    rw [← whole]
    exact (List.prefix_append_right_inj word).mpr onward

theorem singleton_prefix_drop (c : Char) (text : List Char) (i : Nat) : [c] <+: text.drop i ↔ text[i]? = some c := by
  rw [← List.head?_drop]
  cases text.drop i with
  | nil => simp
  | cons d rest => simp [List.cons_prefix_cons, eq_comm]

theorem sites_from_after (before? : Option Char) (text : List Char) (c : Char) (i : Nat) :
    (sitesFrom before? text)[i]?.any (fun site => site.after? = some c) = decide (text[i]? = some c) := by
  induction text generalizing before? i with
  | nil => cases i <;> simp [sitesFrom]
  | cons d rest ih => cases i <;> simp [sitesFrom, ih]

theorem sites_size (text : List Char) : (Index.ofText text).sites.length = text.length + 1 := by
  have from_ : ∀ before?, (sitesFrom before? text).length = text.length + 1 := by
    induction text with
    | nil => exact fun _ => rfl
    | cons c rest ih => exact fun before? => congrArg (· + 1) (ih (some c))
  exact from_ none

theorem before_bit (text : List Char) (set : CharSet) (i : Nat) :
    ((Index.ofText text).before set).testBit i = true ↔ ∃ c, text[i]? = some c ∧ set.mem c.toNat = true := by
  have folded : ∀ (chars : List Char) (found : Nat),
      ((chars.map fun c => (c, positions (fun site => site.after? = some c) (sites text))).foldl
        (fun found entry => if set.mem entry.1.toNat then found ||| entry.2 else found) found).testBit i = true ↔
          found.testBit i = true ∨ ∃ c ∈ chars, text[i]? = some c ∧ set.mem c.toNat = true := by
    intro chars
    induction chars with
    | nil => simp
    | cons c rest ih =>
        intro found
        have here : (positions (fun site => site.after? = some c) (sites text)).testBit i = decide (text[i]? = some c) := by
          rw [testBit_positions]
          exact sites_from_after none text c i
        rw [List.map_cons, List.foldl_cons, ih]
        simp only [List.mem_cons, exists_eq_or_imp]
        split
        · rename_i member
          rw [Nat.testBit_or, here]
          simp [member, or_assoc]
        · rename_i member
          simp [member]
  refine (folded text.eraseDups 0).trans ?_
  simp only [Nat.zero_testBit, Bool.false_eq_true, false_or, List.mem_eraseDups]
  constructor
  · rintro ⟨c, -, here, member⟩
    exact ⟨c, here, member⟩
  · rintro ⟨c, here, member⟩
    exact ⟨c, List.mem_of_getElem? here, here, member⟩

section Parts

variable {a b : Pattern} {first second : List Char → Prop}

theorem denotes_empty : Denotes .empty (· = []) := by
  intro text marked j
  change marked.testBit j = true ↔ _
  constructor
  · exact fun here => ⟨j, [], here, rfl, List.nil_prefix, rfl⟩
  · rintro ⟨i, _, here, rfl, -, rfl⟩
    exact here

theorem denotes_one (set : CharSet) : Denotes (.one set) fun word => ∃ c, word = [c] ∧ set.mem c.toNat = true := by
  intro text marked j
  simp only [reach, place, Placed.reach, Nat.testBit_shiftLeft, Nat.testBit_and, Bool.and_eq_true, decide_eq_true_eq,
    before_bit]
  constructor
  · rintro ⟨behind, here, c, known, member⟩
    exact ⟨j - 1, [c], here, ⟨c, rfl, member⟩, (singleton_prefix_drop c text _).mpr known, by
      simp only [List.length_singleton]; omega⟩
  · rintro ⟨i, _, here, ⟨c, rfl, member⟩, within, rfl⟩
    exact ⟨Nat.le_add_left _ _, here, c, (singleton_prefix_drop c text i).mp within, member⟩

theorem denotes_then (one : Denotes a first) (other : Denotes b second) (text : List Char) (marked j : Nat) :
    (b.reach (Index.ofText text) (a.reach (Index.ofText text) marked)).testBit j = true ↔
      ∃ i word, marked.testBit i = true ∧ (∃ u v, first u ∧ second v ∧ word = u ++ v) ∧ word <+: text.drop i ∧
        j = i + word.length := by
  rw [other]
  constructor
  · rintro ⟨_, v, reached, known', within', rfl⟩
    obtain ⟨i, u, here, known, within, rfl⟩ := (one text marked _).mp reached
    exact ⟨i, u ++ v, here, ⟨u, v, known, known', rfl⟩, (prefix_append_drop u v text i).mpr ⟨within, within'⟩, by
      rw [List.length_append, Nat.add_assoc]⟩
  · rintro ⟨i, _, here, ⟨u, v, known, known', rfl⟩, within, rfl⟩
    obtain ⟨before, behind⟩ := (prefix_append_drop u v text i).mp within
    exact ⟨i + u.length, v, (one text marked _).mpr ⟨i, u, here, known, before, rfl⟩, known', behind, by
      rw [List.length_append, Nat.add_assoc]⟩

theorem either_word (marked j : Nat) (text : List Char) :
    (∃ i word, marked.testBit i = true ∧ (first word ∨ second word) ∧ word <+: text.drop i ∧ j = i + word.length) ↔
      (∃ i word, marked.testBit i = true ∧ first word ∧ word <+: text.drop i ∧ j = i + word.length) ∨
        ∃ i word, marked.testBit i = true ∧ second word ∧ word <+: text.drop i ∧ j = i + word.length := by
  simp only [or_and_right, and_or_left, exists_or]

theorem denotes_alt (one : Denotes a first) (other : Denotes b second) :
    Denotes (.alt a b) fun word => first word ∨ second word := by
  intro text marked j
  rw [either_word, ← one, ← other]
  simp only [reach, place, Placed.reach, Nat.testBit_or, Bool.or_eq_true]

theorem denotes_optional (one : Denotes a first) :
    Denotes (.repeated a 0 (some 1)) fun word => word = [] ∨ first word := by
  intro text marked j
  have once : (Pattern.repeated a 0 (some 1)).reach (Index.ofText text) marked =
      marked ||| a.reach (Index.ofText text) marked := by
    simp only [reach, place, Placed.reach, iterate]
    split
    · exact (‹_ = marked›).symm
    · rfl
  rw [once, either_word, ← denotes_empty, ← one, Nat.testBit_or, Bool.or_eq_true]
  rfl

end Parts

theorem iterate_succ {α : Type} [DecidableEq α] (step : α → α) (n : Nat) (a : α) :
    iterate step (n + 1) a = iterate step n (step a) := by
  have stays : step a = a → ∀ n, iterate step n a = a := by
    intro same n
    cases n with
    | zero => rfl
    | succ n => rw [iterate]; exact if_pos same
  rw [iterate]
  split
  · rename_i same
    rw [same, stays same]
  · rfl

theorem denotes_many (set : CharSet) :
    Denotes (.repeated (.one set) 0 none) fun word => ∀ c ∈ word, set.mem c.toNat = true := by
  intro text marked j
  have rounds : ∀ (n marked : Nat),
      (iterate (fun marked => marked ||| (Pattern.one set).reach (Index.ofText text) marked) n marked).testBit j = true ↔
        ∃ i word, marked.testBit i = true ∧ ((∀ c ∈ word, set.mem c.toNat = true) ∧ word.length ≤ n) ∧
          word <+: text.drop i ∧ j = i + word.length := by
    intro n
    induction n with
    | zero =>
        intro marked
        change marked.testBit j = true ↔ _
        constructor
        · exact fun here => ⟨j, [], here, ⟨by simp, Nat.le_refl _⟩, List.nil_prefix, rfl⟩
        · rintro ⟨i, word, here, ⟨-, short⟩, -, rfl⟩
          rw [List.length_eq_zero_iff.mp (Nat.le_zero.mp short)]
          exact here
    | succ n ih =>
        intro marked
        rw [iterate_succ, ih]
        constructor
        · rintro ⟨i, word, here, ⟨members, short⟩, within, rfl⟩
          rw [Nat.testBit_or, Bool.or_eq_true] at here
          rcases here with here | there
          · exact ⟨i, word, here, ⟨members, Nat.le_succ_of_le short⟩, within, rfl⟩
          · obtain ⟨k, _, here, ⟨c, rfl, member⟩, before, rfl⟩ := (denotes_one set text marked i).mp there
            refine ⟨k, c :: word, here, ⟨?_, Nat.succ_le_succ short⟩, ?_, ?_⟩
            · simpa [member] using members
            · exact (prefix_append_drop [c] word text k).mpr ⟨before, within⟩
            · simp only [List.length_cons, List.length_nil]
              omega
        · rintro ⟨i, word, here, ⟨members, short⟩, within, rfl⟩
          cases word with
          | nil =>
              refine ⟨i, [], ?_, ⟨by simp, Nat.zero_le _⟩, List.nil_prefix, rfl⟩
              rw [Nat.testBit_or, here, Bool.true_or]
          | cons c rest =>
              obtain ⟨before, behind⟩ := (prefix_append_drop [c] rest text i).mp within
              refine ⟨i + 1, rest, ?_, ⟨fun d known => members d (List.mem_cons_of_mem c known), Nat.le_of_succ_le_succ short⟩,
                behind, ?_⟩
              · rw [Nat.testBit_or, Bool.or_eq_true]
                exact .inr ((denotes_one set text marked _).mpr
                  ⟨i, [c], here, ⟨c, rfl, members c List.mem_cons_self⟩, before, rfl⟩)
              · simp only [List.length_cons]
                omega
  have whole : (Pattern.repeated (.one set) 0 none).reach (Index.ofText text) marked =
      iterate (fun marked => marked ||| (Pattern.one set).reach (Index.ofText text) marked) (text.length + 1) marked := by
    rw [← sites_size]
    rfl
  rw [whole, rounds]
  constructor
  · exact fun ⟨i, word, here, ⟨members, _⟩, within, size⟩ => ⟨i, word, here, members, within, size⟩
  · rintro ⟨i, word, here, members, within, size⟩
    have short := within.length_le
    rw [List.length_drop] at short
    exact ⟨i, word, here, ⟨members, by omega⟩, within, size⟩

section Sequences

variable {language : List Char → Prop}

theorem sequence_denotes_cons (item : Item) (items : List Item) {last : List Char → Prop}
    (before : Denotes (Group.sequence items).value language) (here : Denotes item.pattern.value last) :
    Denotes (Group.sequence (item :: items)).value fun word => ∃ u v, language u ∧ last v ∧ word = u ++ v := by
  intro text marked j
  rw [← denotes_then before here, sequence_reach, sequence_reach, List.foldr_cons]

theorem single_mem (c d : Char) : (CharSet.single c).mem d.toNat = true ↔ d = c := by
  have same : d.toNat = c.toNat ↔ d = c := ⟨fun equal => Char.toNat_inj.mp equal, fun equal => by rw [equal]⟩
  rw [← same]
  simp only [CharSet.mem, CharSet.single, Ranges.mem]
  split <;> simp <;> omega

theorem denotes_letter (c : Char) : Denotes (letter c).pattern.value (· = [c]) := by
  refine denotes_same (denotes_one (.single c)) fun word => ?_
  constructor
  · rintro ⟨d, rfl, member⟩
    rw [(single_mem c d).mp member]
  · rintro rfl
    exact ⟨c, rfl, (single_mem c c).mpr rfl⟩

theorem letters_denote (text : List Char) (items : List Item) (before : Denotes (Group.sequence items).value language) :
    Denotes (Group.sequence (text.reverse.map letter ++ items)).value fun word => ∃ u, language u ∧ word = u ++ text := by
  induction text generalizing items language with
  | nil => exact denotes_same before fun word => by simp
  | cons c rest ih =>
      have here := ih (letter c :: items) (sequence_denotes_cons (letter c) items before (denotes_letter c))
      rw [List.reverse_cons, List.map_append, List.append_assoc]
      refine denotes_same here fun word => ?_
      constructor
      · rintro ⟨_, ⟨u, _, known, rfl, rfl⟩, rfl⟩
        exact ⟨u, known, by simp⟩
      · rintro ⟨u, known, rfl⟩
        exact ⟨u ++ [c], ⟨u, [c], known, rfl, rfl⟩, by simp⟩

theorem choice_denotes {α : Type} (branch : α → Nested Pattern) (words : α → List Char → Prop) (members : List α)
    (some_ : members ≠ []) (each : ∀ member ∈ members, Denotes (branch member).value (words member)) :
    Denotes (Group.choice (members.map branch)).value fun word => ∃ member ∈ members, words member word := by
  have folded : ∀ (rest : List α) (behind : Pattern) (known : List Char → Prop),
      (∀ member ∈ rest, Denotes (branch member).value (words member)) → Denotes behind known →
        Denotes ((rest.map branch).foldl (fun behind branch => Pattern.alt branch.value behind) behind)
          fun word => known word ∨ ∃ member ∈ rest, words member word := by
    intro rest
    induction rest with
    | nil => exact fun behind known _ denotes => denotes_same denotes fun word => by simp
    | cons first rest ih =>
        intro behind known each denotes
        have either := denotes_alt (each first List.mem_cons_self) denotes
        refine denotes_same (ih _ _ (fun member member_ => each member (List.mem_cons_of_mem first member_)) either) fun word => ?_
        simp only [List.mem_cons, exists_eq_or_imp, ← or_assoc, or_comm (b := known word)]
  match members with
  | [member] => exact denotes_same (each member List.mem_cons_self) fun word => by simp
  | last :: next :: rest =>
      refine denotes_same (folded (next :: rest) _ _ (fun member known => each member (List.mem_cons_of_mem last known))
        (each last List.mem_cons_self)) fun word => ?_
      simp only [List.mem_cons, exists_eq_or_imp]

end Sequences

end RequestSpans.Pattern
