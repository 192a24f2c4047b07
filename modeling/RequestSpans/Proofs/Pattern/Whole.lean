import RequestSpans.Proofs.Pattern.Reading

set_option autoImplicit false

namespace RequestSpans.Pattern

def matchesWhole (pattern : Pattern) (text : String) : Bool :=
  (pattern.reach (Index.ofText text.toList) 1).testBit text.toList.length

theorem sites_from_start (before? : Option Char) (text : List Char) (i : Nat) :
    (sitesFrom before? text)[i]?.any (fun site => site.before?.isNone) = (i = 0 && before?.isNone) := by
  induction text generalizing before? i with
  | nil => cases i <;> simp [sitesFrom]
  | cons c rest ih => cases i <;> simp [sitesFrom, ih]

theorem sites_from_end (before? : Option Char) (text : List Char) (i : Nat) :
    (sitesFrom before? text)[i]?.any (fun site => site.after?.isNone) = decide (i = text.length) := by
  induction text generalizing before? i with
  | nil => cases i <;> simp [sitesFrom]
  | cons c rest ih => cases i <;> simp [sitesFrom, ih]

section Anchors

variable (text : List Char) (marked : Nat) (i : Nat)

theorem start_bit : ((Pattern.assert .textStart).reach (Index.ofText text) marked).testBit i =
    (marked.testBit i && decide (i = 0)) := by
  have here := sites_from_start none text i
  simp only [reach, place, Placed.reach, Nat.testBit_and, testBit_positions, Index.ofText, sites, Assertion.holds, here]
  simp

theorem end_bit : ((Pattern.assert .textEnd).reach (Index.ofText text) marked).testBit i =
    (marked.testBit i && decide (i = text.length)) := by
  have here := sites_from_end none text i
  simp only [reach, place, Placed.reach, Nat.testBit_and, testBit_positions, Index.ofText, sites, Assertion.holds, here]

theorem start_reach (begins : marked.testBit 0 = true) : (Pattern.assert .textStart).reach
    (Index.ofText text) marked = 1 := by
  refine Nat.eq_of_testBit_eq fun j => ?_
  rw [start_bit]
  cases j with
  | zero => simp [begins]
  | succ j => simp [Nat.testBit_succ]

end Anchors

theorem sequence_reach (items : List Item) (index : Index) (marked : Nat) :
    (Group.sequence items).value.reach index marked = items.foldr (fun item => item.pattern.value.reach index) marked := by
  have folded : ∀ (items : List Item) (behind : Pattern),
      (items.foldl (fun behind item => Pattern.cat item.pattern.value behind) behind).reach index marked =
        behind.reach index (items.foldr (fun item => item.pattern.value.reach index) marked) := by
    intro items
    induction items with
    | nil => exact fun _ => rfl
    | cons item rest ih => exact fun behind => ih (.cat item.pattern.value behind)
  match items with
  | [] => rfl
  | [item] => rfl
  | item :: next :: rest => exact folded (item :: next :: rest) .empty

def anchor (assertion : Assertion) : Item := ⟨⟨.assert assertion, 0⟩, true⟩

section Sequences

variable (items : List Item) (text : String)

theorem start_whole : (Group.sequence (items ++ [anchor .textStart])).value.matchesWhole text =
    (Group.sequence items).value.matchesWhole text := by
  simp only [matchesWhole, sequence_reach, List.foldr_append, List.foldr_cons, List.foldr_nil, anchor]
  rw [start_reach _ 1 rfl]

theorem end_whole : (Group.sequence (anchor .textEnd :: items)).value.matchesWhole text =
    (Group.sequence items).value.matchesWhole text := by
  simp only [matchesWhole, sequence_reach, List.foldr_cons, anchor, end_bit, decide_true, Bool.and_true]

end Sequences

def Group.Accepts (group : Group) (text : String) : Prop :=
  ∃ branch ∈ Group.sequence group.items :: group.branches, branch.value.matchesWhole text = true

theorem finish_whole (group : Group) (text : String) : group.finish.value.matchesWhole text = true ↔ group.Accepts text := by
  have folded : ∀ (branches : List (Nested Pattern)) (behind : Pattern),
      (branches.foldl (fun behind branch => Pattern.alt branch.value behind) behind).matchesWhole text = true ↔
        behind.matchesWhole text = true ∨ ∃ branch ∈ branches, branch.value.matchesWhole text = true := by
    intro branches
    induction branches with
    | nil => simp
    | cons branch rest ih =>
        intro behind
        have either : (Pattern.alt branch.value behind).matchesWhole text = true ↔
            branch.value.matchesWhole text = true ∨ behind.matchesWhole text = true := by
          simp only [matchesWhole, reach, place, Placed.reach, Nat.testBit_or, Bool.or_eq_true]
        rw [List.foldl_cons, ih, either]
        simp only [List.mem_cons, exists_eq_or_imp]
        rw [← or_assoc, or_comm (a := behind.matchesWhole text = true)]
  have whole : group.finish.value = group.branches.foldl (fun behind branch => Pattern.alt branch.value behind)
      (Group.sequence group.items).value := by
    unfold Group.finish
    cases group.branches <;> rfl
  rw [whole, folded]
  simp only [Group.Accepts, List.mem_cons, exists_eq_or_imp]

theorem between_anchors (pattern : Pattern) (text : String) :
    ((Pattern.assert .textEnd).reach (Index.ofText text.toList) (pattern.reach (Index.ofText text.toList)
      ((Pattern.assert .textStart).reach (Index.ofText text.toList) (positions (fun _ => true) (Index.ofText text.toList).sites)))
        ≠ 0) ↔ pattern.matchesWhole text = true := by
  have everywhere : (positions (fun _ => true) (Index.ofText text.toList).sites).testBit 0 = true := by
    rw [testBit_positions]
    cases text.toList <;> rfl
  rw [start_reach _ _ everywhere, matchesWhole]
  constructor
  · intro some_
    obtain ⟨i, set⟩ := Nat.exists_testBit_of_ne_zero some_
    rw [end_bit] at set
    simp only [Bool.and_eq_true, decide_eq_true_eq] at set
    exact set.2 ▸ set.1
  · intro ends none_
    have set := end_bit text.toList (pattern.reach (Index.ofText text.toList) 1) text.toList.length
    rw [none_, ends] at set
    simp at set

end RequestSpans.Pattern
