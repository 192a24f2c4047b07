set_option autoImplicit false

namespace RequestSpans.Text

def split (sep : Char) : List Char → List (List Char)
  | [] => [[]]
  | c :: rest =>
    if c = sep then [] :: split sep rest
    else
      match split sep rest with
      | [] => [[c]]
      | part :: parts => (c :: part) :: parts

def splitTerminated (sep : Char) (text : List Char) : List (List Char) :=
  let parts := split sep text
  if parts.getLast? = some [] then parts.dropLast else parts

def splitFirst (sep : Char) : List Char → Option (List Char × List Char)
  | [] => none
  | c :: rest =>
    if c = sep then some ([], rest)
    else (splitFirst sep rest).map fun (before, after) => (c :: before, after)

def splitLast (sep : Char) : List Char → Option (List Char × List Char)
  | [] => none
  | c :: rest =>
    match splitLast sep rest with
    | some (before, after) => some (c :: before, after)
    | none => if c = sep then some ([], rest) else none

def join (sep : Char) : List (List Char) → List Char
  | [] => []
  | [part] => part
  | part :: parts => part ++ sep :: join sep parts

def dropEndWhile (p : Char → Bool) (text : List Char) : List Char :=
  (text.reverse.dropWhile p).reverse

def trimWhile (p : Char → Bool) (text : List Char) : List Char :=
  dropEndWhile p (text.dropWhile p)

def isBlank (c : Char) : Bool := c = ' ' || c = '\t'

theorem split_ne_nil (sep : Char) (text : List Char) : split sep text ≠ [] := by
  cases text with
  | nil => simp [split]
  | cons c rest =>
    unfold split
    split
    · simp
    · split <;> simp

theorem join_split (sep : Char) (text : List Char) : join sep (split sep text) = text := by
  induction text with
  | nil => rfl
  | cons c rest ih =>
    unfold split
    split
    · rename_i h
      cases hs : split sep rest with
      | nil => exact absurd hs (split_ne_nil sep rest)
      | cons part parts =>
        rw [hs] at ih
        simp [join, ih, h]
    · cases hs : split sep rest with
      | nil => exact absurd hs (split_ne_nil sep rest)
      | cons part parts =>
        rw [hs] at ih
        cases parts with
        | nil => simpa [join] using ih
        | cons next others => simpa [join] using ih

theorem split_append (sep : Char) (part rest : List Char) (clean : sep ∉ part) :
    split sep (part ++ sep :: rest) = part :: split sep rest := by
  induction part with
  | nil => simp [split]
  | cons c part ih =>
      have different : c ≠ sep := fun same => clean (same ▸ List.mem_cons_self)
      rw [List.cons_append, split, if_neg different, ih fun member => clean (List.mem_cons_of_mem c member)]

theorem split_clean (sep : Char) (part : List Char) (clean : sep ∉ part) : split sep part = [part] := by
  induction part with
  | nil => rfl
  | cons c part ih =>
      have different : c ≠ sep := fun same => clean (same ▸ List.mem_cons_self)
      rw [split, if_neg different, ih fun member => clean (List.mem_cons_of_mem c member)]

theorem split_take (sep : Char) (text : List Char) : (split sep text).head? = some (text.takeWhile (· ≠ sep)) := by
  induction text with
  | nil => rfl
  | cons c rest ih =>
      rw [split]
      by_cases same : c = sep
      · simp [same]
      · rw [if_neg same]
        cases parts : split sep rest with
        | nil => exact absurd parts (split_ne_nil sep rest)
        | cons part others =>
            rw [parts] at ih
            simpa [same] using ih

theorem split_join (sep : Char) (parts : List (List Char)) (some_ : parts ≠ []) (clean : ∀ part ∈ parts, sep ∉ part) :
    split sep (join sep parts) = parts := by
  induction parts with
  | nil => contradiction
  | cons part rest ih =>
      have here := clean part List.mem_cons_self
      cases rest with
      | nil => exact split_clean sep part here
      | cons next others =>
          rw [join, split_append sep part _ here, ih (by simp) fun other member => clean other (List.mem_cons_of_mem part member)]
          simp

theorem split_terminated_join (sep : Char) (parts : List (List Char)) (clean : ∀ part ∈ parts, sep ∉ part)
    (closed : parts.getLast? ≠ some []) : splitTerminated sep (join sep parts) = parts := by
  cases parts with
  | nil => rfl
  | cons part rest =>
      simp only [splitTerminated, split_join sep (part :: rest) (by simp) clean, if_neg closed]

theorem intercalate_join (sep : Char) (parts : List (List Char)) : [sep].intercalate parts = join sep parts := by
  induction parts with
  | nil => rfl
  | cons part rest ih =>
      cases rest with
      | nil => simp [join, List.intercalate]
      | cons next others =>
          rw [join, ← ih]
          · simp [List.intercalate]
          · simp

theorem mem_join (sep : Char) (parts : List (List Char)) (part : List Char) (member : part ∈ parts) :
    part ⊆ join sep parts := by
  induction parts with
  | nil => simp at member
  | cons first rest ih =>
      cases rest with
      | nil =>
          rw [List.mem_singleton.mp member, join]
          exact List.Subset.refl first
      | cons next others =>
          rw [join]
          · rcases List.mem_cons.mp member with rfl | later
            · exact List.subset_append_left _ _
            · exact List.Subset.trans (ih later)
                (List.Subset.trans (List.subset_cons_self sep _) (List.subset_append_right first _))
          · simp

theorem of_mem_join (sep : Char) (parts : List (List Char)) (c : Char) (member : c ∈ join sep parts) :
    c = sep ∨ ∃ part ∈ parts, c ∈ part := by
  induction parts with
  | nil => simp [join] at member
  | cons first rest ih =>
      cases rest with
      | nil => exact .inr ⟨first, List.mem_cons_self, by simpa [join] using member⟩
      | cons next others =>
          rw [join] at member
          · rcases List.mem_append.mp member with here | behind
            · exact .inr ⟨first, List.mem_cons_self, here⟩
            · rcases List.mem_cons.mp behind with same | later
              · exact .inl same
              · obtain same | ⟨part, known, present⟩ := ih later
                · exact .inl same
                · exact .inr ⟨part, List.mem_cons_of_mem first known, present⟩
          · simp

theorem mem_split_terminated (sep : Char) (text part : List Char) (member : part ∈ splitTerminated sep text) :
    part ⊆ text := by
  have known : part ∈ split sep text := by
    unfold splitTerminated at member
    dsimp only at member
    split at member
    · exact (List.dropLast_sublist _).subset member
    · exact member
  exact join_split sep text ▸ mem_join sep (split sep text) part known

theorem split_first_append (sep : Char) (before after : List Char) (clean : sep ∉ before) :
    splitFirst sep (before ++ sep :: after) = some (before, after) := by
  induction before with
  | nil => simp [splitFirst]
  | cons c before ih =>
      have different : c ≠ sep := fun same => clean (same ▸ List.mem_cons_self)
      rw [List.cons_append, splitFirst, if_neg different, ih fun member => clean (List.mem_cons_of_mem c member)]
      rfl

theorem split_first_eq (sep : Char) (text before after : List Char) (cut : splitFirst sep text = some (before, after)) :
    text = before ++ sep :: after := by
  induction text generalizing before with
  | nil => simp [splitFirst] at cut
  | cons c rest ih =>
      unfold splitFirst at cut
      split at cut
      · rename_i same
        obtain ⟨rfl, rfl⟩ := Prod.mk.inj (Option.some.inj cut)
        rw [same, List.nil_append]
      · obtain ⟨⟨front, back⟩, inner, whole⟩ := Option.map_eq_some_iff.mp cut
        obtain ⟨rfl, rfl⟩ := Prod.mk.inj whole
        rw [ih front inner, List.cons_append]

theorem split_last_none (sep : Char) (text : List Char) (clean : sep ∉ text) : splitLast sep text = none := by
  induction text with
  | nil => rfl
  | cons c rest ih =>
      have different : c ≠ sep := fun same => clean (same ▸ List.mem_cons_self)
      rw [splitLast, ih fun member => clean (List.mem_cons_of_mem c member)]
      exact if_neg different

theorem split_last_append (sep : Char) (before after : List Char) (clean : sep ∉ after) :
    splitLast sep (before ++ sep :: after) = some (before, after) := by
  induction before with
  | nil =>
      rw [List.nil_append, splitLast, split_last_none sep after clean]
      exact if_pos rfl
  | cons c before ih => rw [List.cons_append, splitLast, ih]

theorem last_cut (sep : Char) (text : List Char) (member : sep ∈ text) :
    ∃ before after, text = before ++ sep :: after ∧ sep ∉ after := by
  induction text with
  | nil => exact absurd member List.not_mem_nil
  | cons c rest ih =>
      by_cases later : sep ∈ rest
      · obtain ⟨before, after, same, clean⟩ := ih later
        exact ⟨c :: before, after, congrArg (c :: ·) same, clean⟩
      · obtain rfl := (List.mem_cons.mp member).resolve_right later
        exact ⟨[], rest, rfl, later⟩

theorem drop_while_closed (p : Char → Bool) (text : List Char) (first : ∀ c ∈ text.head?, p c = false) :
    text.dropWhile p = text := by
  cases text with
  | nil => rfl
  | cons c rest => rw [List.dropWhile_cons, first c rfl, if_neg Bool.false_ne_true]

theorem drop_while_none (p : Char → Bool) (text : List Char) (none_ : ∀ c ∈ text, p c = false) : text.dropWhile p = text :=
  drop_while_closed p text fun c first => none_ c (List.mem_of_head? first)

theorem take_while_all (p : Char → Bool) (text : List Char) (all : ∀ c ∈ text, p c = true) : text.takeWhile p = text := by
  induction text with
  | nil => rfl
  | cons c rest ih =>
      rw [List.takeWhile_cons, if_pos (all c List.mem_cons_self), ih fun other member => all other (List.mem_cons_of_mem c member)]

theorem take_while_clean (sep : Char) (text : List Char) (clean : sep ∉ text) : text.takeWhile (· ≠ sep) = text :=
  take_while_all _ text fun _ member => decide_eq_true fun same => clean (same ▸ member)

theorem take_while_before (sep : Char) (before after : List Char) (clean : sep ∉ before) :
    (before ++ sep :: after).takeWhile (· ≠ sep) = before := by
  have inside : ∀ c ∈ before, decide (c ≠ sep) = true := fun c member => decide_eq_true fun same => clean (same ▸ member)
  rw [List.takeWhile_append_of_pos inside, List.takeWhile_cons, if_neg (by simp), List.append_nil]

theorem take_last (sep : Char) (before after : List Char) (clean : sep ∉ after) :
    ((before ++ sep :: after).reverse.takeWhile (· ≠ sep)).reverse = after := by
  have clean_reverse : sep ∉ after.reverse := fun member => clean (List.mem_reverse.mp member)
  rw [List.reverse_append, List.reverse_cons, List.append_assoc, List.singleton_append,
    take_while_before sep _ _ clean_reverse, List.reverse_reverse]

theorem drop_end_append (p : Char → Bool) (text after : List Char) (outer : ∀ c ∈ after, p c = true) :
    dropEndWhile p (text ++ after) = dropEndWhile p text := by
  have outer_reverse : ∀ c ∈ after.reverse, p c = true := fun c member => outer c (List.mem_reverse.mp member)
  rw [dropEndWhile, List.reverse_append, List.dropWhile_append_of_pos outer_reverse, dropEndWhile]

theorem drop_end_closed (p : Char → Bool) (text : List Char) (last : ∀ c ∈ text.getLast?, p c = false) :
    dropEndWhile p text = text := by
  rw [← List.head?_reverse] at last
  rw [dropEndWhile, drop_while_closed p text.reverse last, List.reverse_reverse]

theorem drop_end_front (p : Char → Bool) (front back : List Char) (c : Char) (closed : p c = false) :
    dropEndWhile p (front ++ c :: back) = front ++ c :: dropEndWhile p back := by
  rw [dropEndWhile, List.reverse_append, List.reverse_cons, List.append_assoc, List.singleton_append,
    List.dropWhile_append, dropEndWhile]
  split
  · rename_i none_
    rw [List.isEmpty_iff.mp none_, List.dropWhile_cons, closed, if_neg Bool.false_ne_true]
    simp
  · simp

theorem trim_while_between (p : Char → Bool) (before text after : List Char) (outer : ∀ c ∈ before ++ after, p c = true)
    (first : ∀ c ∈ text.head?, p c = false) (last : ∀ c ∈ text.getLast?, p c = false) :
    trimWhile p (before ++ (text ++ after)) = text := by
  have front : ∀ c ∈ before, p c = true := fun c member => outer c (List.mem_append_left after member)
  have back : ∀ c ∈ after, p c = true := fun c member => outer c (List.mem_append_right before member)
  rw [trimWhile, List.dropWhile_append_of_pos front]
  cases text with
  | nil =>
      have gone : after.dropWhile p = [] := by
        rw [← List.append_nil after, List.dropWhile_append_of_pos back]
        rfl
      rw [List.nil_append, gone]
      rfl
  | cons c rest => rw [drop_while_closed p (c :: rest ++ after) first, drop_end_append p _ after back, drop_end_closed p _ last]

theorem trim_while_none (p : Char → Bool) (text : List Char) (none_ : ∀ c ∈ text, p c = false) : trimWhile p text = text := by
  have bare := trim_while_between p [] text [] nofun (fun c first => none_ c (List.mem_of_head? first))
    fun c last => none_ c (List.mem_of_getLast? last)
  rwa [List.nil_append, List.append_nil] at bare

theorem split_between (sep : Char) (before after : List Char) :
    split sep (before ++ sep :: after) = split sep before ++ split sep after := by
  induction before with
  | nil => simp [split]
  | cons c before ih =>
      by_cases same : c = sep
      · simp only [List.cons_append, split, if_pos same, ih]
      · simp only [List.cons_append, split, if_neg same, ih]
        cases parts : split sep before with
        | nil => exact absurd parts (split_ne_nil sep before)
        | cons part others => rfl

theorem join_between (sep : Char) (before after : List (List Char)) (some_ : before ≠ []) (more : after ≠ []) :
    join sep (before ++ after) = join sep before ++ sep :: join sep after := by
  induction before with
  | nil => contradiction
  | cons part before ih =>
      cases before with
      | nil =>
          cases after with
          | nil => contradiction
          | cons next others => rfl
      | cons next others =>
          have inner := ih (by simp)
          simp only [List.cons_append] at inner ⊢
          simp only [join, inner, List.append_assoc, List.cons_append]

theorem split_prefix_iff (sep : Char) (start text : List Char) :
    split sep start <+: split sep text ↔ text = start ∨ start ++ [sep] <+: text := by
  constructor
  · rintro ⟨more, whole⟩
    have joined := join_split sep text
    rw [← whole] at joined
    cases more with
    | nil => exact .inl (by rw [← joined, List.append_nil, join_split])
    | cons next others =>
        rw [join_between sep _ _ (split_ne_nil sep start) (by simp), join_split] at joined
        exact .inr ⟨join sep (next :: others), by simpa using joined⟩
  · rintro (rfl | ⟨rest, rfl⟩)
    · exact List.prefix_rfl
    · rw [List.append_assoc, List.singleton_append, split_between]
      exact List.prefix_append _ _

def lastPart (sep : Char) (text : List Char) : List Char := (split sep text).getLast (split_ne_nil sep text)

theorem last_part_cut (sep : Char) (text : List Char) :
    text = lastPart sep text ∨ sep :: lastPart sep text <:+ text := by
  have parts := List.dropLast_concat_getLast (split_ne_nil sep text)
  have joined := join_split sep text
  rw [← parts] at joined
  by_cases single : (split sep text).dropLast = []
  · rw [single] at joined
    exact .inl joined.symm
  · rw [join_between sep _ _ single (by simp)] at joined
    exact .inr ⟨_, joined⟩

theorem last_part_suffix_iff (sep : Char) (ending text : List Char) (clean : sep ∉ ending) :
    ending <:+ lastPart sep text ↔ ending <:+ text := by
  rcases last_part_cut sep text with whole | cut
  · rw [← whole]
  · constructor
    · intro within
      exact within.trans ((List.suffix_cons _ _).trans cut)
    · intro within
      rcases List.suffix_or_suffix_of_suffix within cut with short | long
      · rcases List.suffix_cons_iff.mp short with same | inside
        · exact absurd (same ▸ List.mem_cons_self) clean
        · exact inside
      · exact absurd (long.subset List.mem_cons_self) clean

end RequestSpans.Text
