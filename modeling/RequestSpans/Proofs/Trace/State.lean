import RequestSpans.Proofs.Http.Octets
import RequestSpans.Trace.Propagation

set_option autoImplicit false

namespace RequestSpans

namespace TraceState

def WellFormed (state : TraceState) : Prop :=
  ∀ member ∈ state.members, isKey member.1.toList = true ∧ isValue member.2.toList = true ∧ Headers.isText member.2 = true

def written (member : String × String) : List Char := member.1.toList ++ '=' :: member.2.toList

theorem key_chars (key : List Char) (valid : isKey key = true) (c : Char) (member : c ∈ key) : isKeyChar c = true := by
  simp only [isKey, Bool.and_eq_true] at valid
  exact List.all_eq_true.mp valid.1.1.2 c member

theorem key_lacks (key : List Char) (valid : isKey key = true) (c : Char) (outside : isKeyChar c = false) : c ∉ key := by
  intro member
  rw [key_chars key valid c member] at outside
  contradiction

theorem value_lacks (value : List Char) (valid : isValue value = true) : ',' ∉ value ∧ '=' ∉ value := by
  simp only [isValue, Bool.and_eq_true, Bool.not_eq_true', List.contains_eq_mem, decide_eq_false_iff_not] at valid
  exact ⟨valid.1.2, valid.2⟩

theorem key_char_plain (c : Char) (valid : isKeyChar c = true) : Headers.Plain c := by
  simp only [isKeyChar, isLowerOrDigit, Bool.or_eq_true, Bool.and_eq_true, decide_eq_true_eq] at valid
  rcases valid with (letter | digit) | sign
  · exact Headers.plain_between c 'a' 'z' (by decide) (by decide) letter.1 letter.2
  · exact Headers.plain_between c '0' '9' (by decide) (by decide) digit.1 digit.2
  · have known : c = '_' ∨ c = '-' ∨ c = '*' ∨ c = '/' ∨ c = '@' := by simpa using sign
    rcases known with rfl | rfl | rfl | rfl | rfl <;> exact .inr (by decide)

theorem member_written (member : String × String) (key : isKey member.1.toList = true)
    (value : isValue member.2.toList = true) : member? (written member) = some member := by
  have cut := Text.split_first_append '=' member.1.toList member.2.toList (key_lacks _ key '=' (by decide))
  have whole : member.2.toList.dropWhile (· = '=') = member.2.toList := by
    refine Text.drop_while_none _ _ fun c present => ?_
    simpa using fun same : c = '=' => (value_lacks _ value).2 (same ▸ present)
  simp [member?, written, cut, whole, key, value]

theorem members_written (members : List (String × String))
    (valid : ∀ member ∈ members, isKey member.1.toList = true ∧ isValue member.2.toList = true) :
    (members.map written).mapM member? = some members := by
  induction members with
  | nil => rfl
  | cons member rest ih =>
      obtain ⟨key, value⟩ := valid member List.mem_cons_self
      have others := ih fun other later => valid other (List.mem_cons_of_mem member later)
      simp [List.mapM_cons, member_written member key value, others]

theorem render_join (state : TraceState) : state.render.toList = Text.join ',' (state.members.map written) := by
  rw [← Text.intercalate_join, render, String.toList_intercalate, List.map_map]
  congr 1
  refine List.map_congr_left fun member _ => ?_
  simp [written]

theorem parse_render (state : TraceState) (valid : state.WellFormed) : parse? state.render = some state := by
  have clean : ∀ part ∈ state.members.map written, ',' ∉ part := by
    intro part known
    obtain ⟨member, present, rfl⟩ := List.mem_map.mp known
    obtain ⟨key, value, _⟩ := valid member present
    simp [written, key_lacks _ key ',' (by decide), (value_lacks _ value).1]
  have closed : (state.members.map written).getLast? ≠ some [] := by
    intro last
    obtain ⟨member, _, empty⟩ := List.mem_map.mp (List.mem_of_getLast? last)
    simp [written] at empty
  rw [parse?, render_join, Text.split_terminated_join ',' _ clean closed,
    members_written state.members fun member present => ⟨(valid member present).1, (valid member present).2.1⟩]
  rfl

theorem render_text (state : TraceState) (valid : state.WellFormed) : Headers.isText state.render = true := by
  rw [Headers.is_text_iff, render_join]
  intro c present
  rcases Text.of_mem_join ',' _ c present with rfl | ⟨part, known, inside⟩
  · exact .inr (by decide)
  · obtain ⟨member, among, rfl⟩ := List.mem_map.mp known
    obtain ⟨key, _, text⟩ := valid member among
    rcases List.mem_append.mp inside with front | back
    · exact key_char_plain c (key_chars _ key c front)
    · rcases List.mem_cons.mp back with rfl | after
      · exact .inr (by decide)
      · exact (Headers.is_text_iff member.2).mp text c after

theorem member_valid (part : List Char) (member : String × String) (read : member? part = some member) :
    isKey member.1.toList = true ∧ isValue member.2.toList = true ∧ member.2.toList ⊆ part := by
  obtain ⟨⟨key, rest⟩, cut, made⟩ := Option.bind_eq_some_iff.mp read
  dsimp only at made
  split at made
  · rename_i valid
    obtain rfl := Option.some.inj made
    rw [Bool.and_eq_true] at valid
    refine ⟨by simpa using valid.1, by simpa using valid.2, ?_⟩
    rw [Text.split_first_eq '=' part key rest cut, String.toList_ofList]
    exact List.Subset.trans (List.dropWhile_suffix _).subset
      (List.Subset.trans (List.subset_cons_self '=' rest) (List.subset_append_right key _))
  · contradiction

theorem members_valid (parts : List (List Char)) (members : List (String × String))
    (read : parts.mapM member? = some members) :
    ∀ member ∈ members, ∃ part ∈ parts, member? part = some member := by
  induction parts generalizing members with
  | nil =>
      obtain rfl : [] = members := by simpa using read
      simp
  | cons part rest ih =>
      simp only [List.mapM_cons, Option.bind_eq_bind, Option.bind_eq_some_iff, Option.pure_def, Option.some.injEq] at read
      obtain ⟨first, here, others, later, rfl⟩ := read
      intro member known
      rcases List.mem_cons.mp known with rfl | behind
      · exact ⟨part, List.mem_cons_self, here⟩
      · obtain ⟨other, among, found⟩ := ih others later member behind
        exact ⟨other, List.mem_cons_of_mem part among, found⟩

theorem parse_well_formed (text : String) (state : TraceState) (plain : Headers.isText text = true)
    (read : parse? text = some state) : state.WellFormed := by
  obtain ⟨members, found, rfl⟩ := Option.map_eq_some_iff.mp read
  intro member known
  obtain ⟨part, among, made⟩ := members_valid _ members found member known
  obtain ⟨key, value, taken⟩ := member_valid part member made
  refine ⟨key, value, (Headers.is_text_iff member.2).mpr fun c present => ?_⟩
  exact (Headers.is_text_iff text).mp plain c (Text.mem_split_terminated ',' text.toList part among (taken present))

end TraceState

end RequestSpans
