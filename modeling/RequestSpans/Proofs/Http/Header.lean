import RequestSpans.Draft
import RequestSpans.Proofs.Trace.State

set_option autoImplicit false

namespace RequestSpans

open Text (lower lowerChar)

theorem token_char_lower (c : Char) : isTokenChar (lowerChar c) = isTokenChar c := by
  rcases Text.lower_char_cases c with same | ⟨d, small, rfl, partner⟩
  · rw [same]
  · have both : ∀ d < 26, isTokenChar (Char.ofNat ('a'.toNat + d)) = isTokenChar (Char.ofNat ('A'.toNat + d)) := by decide
    rw [partner, both d small]

namespace Headers

theorem is_name_lower (name : String) : isName (lower name) = isName name := by
  have chars : (name.toList.map lowerChar).all isTokenChar = name.toList.all isTokenChar := by
    rw [List.all_map]
    exact congrArg name.toList.all (funext token_char_lower)
  have length : (lower name).length = name.length := by
    rw [lower, String.length_ofList, List.length_map, String.length_toList]
  rw [isName, isToken, length, lower, String.toList_ofList, chars, List.isEmpty_map, isName, isToken]

abbrev Table := String → List Octets

namespace Table

def write (table : Table) (name text : String) : Table :=
  if isName name && (octets text).all isSendable then
    fun other => if lower other = lower name then [octets text] else table other
  else table

def writeAll (table : Table) (writes : List (String × String)) : Table :=
  writes.foldl (fun table write => table.write write.1 write.2) table

end Table

def setAll (headers : Headers) (writes : List (String × String)) : Headers :=
  writes.foldl (fun headers write => headers.set write.1 write.2) headers

def WellFormed (headers : Headers) : Prop :=
  ∀ field ∈ headers.fields, isName field.1 = true ∧ lower field.1 = field.1

instance (headers : Headers) : Decidable headers.WellFormed := inferInstanceAs (Decidable (∀ field ∈ headers.fields, _))

section Writes

variable (headers : Headers)

theorem set_values (name text : String) :
    (headers.set name text).values = Table.write headers.values name text := by
  rw [Table.write, ← isValue]
  by_cases legal : (isName name && isValue text) = true
  · obtain ⟨valid, allowed⟩ := Bool.and_eq_true_iff.mp legal
    rw [if_pos legal]
    funext other
    split
    · rename_i same
      have written := values_set_same headers name text valid allowed
      rwa [values, ← same] at written
    · rename_i different
      exact values_set_other headers name text other different
  · rw [if_neg legal, set, if_neg legal]

theorem set_all_values (writes : List (String × String)) :
    (headers.setAll writes).values = Table.writeAll headers.values writes := by
  induction writes generalizing headers with
  | nil => rfl
  | cons write rest ih =>
      rw [Table.writeAll, List.foldl_cons, ← set_values]
      exact ih (headers.set write.1 write.2)

theorem well_formed_append (name : String) (value : Octets) (valid : isName name = true) (wellFormed : headers.WellFormed) :
    (headers.append name value).WellFormed := by
  intro field member
  rcases List.mem_append.mp member with old | new
  · exact wellFormed field old
  · rw [List.mem_singleton.mp new]
    exact ⟨(is_name_lower name).trans valid, Text.lower_lower name⟩

theorem well_formed_set (name text : String) (wellFormed : headers.WellFormed) : (headers.set name text).WellFormed := by
  unfold set
  split
  · rename_i legal
    have valid : isName name = true := (Bool.and_eq_true_iff.mp legal).1
    have kept : WellFormed ⟨headers.fields.filter fun field => field.1 ≠ lower name⟩ :=
      fun field member => wellFormed field (List.mem_filter.mp member).1
    exact well_formed_append _ name (octets text) valid kept
  · exact wellFormed

theorem well_formed_set_all (writes : List (String × String)) (wellFormed : headers.WellFormed) :
    (headers.setAll writes).WellFormed := by
  induction writes generalizing headers with
  | nil => exact wellFormed
  | cons write rest ih => exact ih _ (headers.well_formed_set write.1 write.2 wellFormed)

theorem added_well_formed (field : String × String) (after : Headers) (wellFormed : headers.WellFormed)
    (added : Draft.headers.add headers field = .ok after) : after.WellFormed := by
  unfold Draft.headers.add at added
  split at added
  · contradiction
  · rename_i named
    have valid : isName field.1 = true := by simpa using named
    split at added
    · contradiction
    · obtain rfl := Except.ok.inj added
      exact headers.well_formed_append field.1 (octets field.2) valid wellFormed

theorem added_all_well_formed (fields : List (String × String)) (after : Headers) (wellFormed : headers.WellFormed)
    (added : fields.foldlM Draft.headers.add headers = .ok after) : after.WellFormed := by
  induction fields generalizing headers with
  | nil =>
      obtain rfl := Except.ok.inj added
      exact wellFormed
  | cons field rest ih =>
      rw [List.foldlM_cons] at added
      cases first : Draft.headers.add headers field with
      | error error =>
          rw [first] at added
          contradiction
      | ok next =>
          rw [first] at added
          exact ih next (headers.added_well_formed field next wellFormed first) added

theorem drafted_well_formed (fields : List (String × String)) (drafted : Draft.headers fields = .ok headers) :
    headers.WellFormed := by
  have none_ : empty.WellFormed := fun field member => absurd member List.not_mem_nil
  cases fields with
  | nil => exact empty.added_all_well_formed [] headers none_ drafted
  | cons field rest => exact empty.added_all_well_formed (field :: rest) headers none_ drafted

theorem value_name (name : String) (value : Octets) (wellFormed : headers.WellFormed) (present : value ∈ headers.values name) :
    isName name = true := by
  obtain ⟨field, member, -⟩ := List.mem_map.mp present
  obtain ⟨known, same⟩ := List.mem_filter.mp member
  have valid := (wellFormed field known).1
  rwa [of_decide_eq_true same, is_name_lower] at valid

theorem text_iff (name text : String) (wellFormed : headers.WellFormed) :
    headers.text? name = some text ↔
      isName name = true ∧ (headers.values name).head? = some (octets text) ∧ (octets text).all isReadable = true := by
  rw [text?, Option.bind_eq_some_iff, get?]
  constructor
  · rintro ⟨value, first, read⟩
    obtain ⟨rfl, readable⟩ := (read_iff value text).mp read
    exact ⟨headers.value_name name _ wellFormed (List.mem_of_mem_head? first), first, readable⟩
  · exact fun ⟨_, first, readable⟩ => ⟨octets text, first, (read_iff _ text).mpr ⟨rfl, readable⟩⟩

theorem text_set_same (name text spelling : String) (valid : isName name = true)
    (readable : (octets text).all isReadable = true) (same : lower spelling = lower name) :
    (headers.set name text).text? spelling = some text := by
  have written := values_set_same headers name text valid (text_is_value text readable)
  rw [values, ← same, ← values] at written
  rw [text?, get?, written]
  exact (read_iff _ text).mpr ⟨rfl, readable⟩

theorem text_set_other (name text other : String) (different : lower other ≠ lower name) :
    (headers.set name text).text? other = headers.text? other := by
  rw [text?, get?, values_set_other headers name text other different, text?, get?]

theorem writes_replace_values (wellFormed : headers.WellFormed) (writes : List (String × String)) :
    let after := headers.setAll writes
    after.WellFormed ∧ after.values = Table.writeAll headers.values writes ∧
    (∀ name text, after.text? name = some text ↔
      isName name = true ∧ (after.values name).head? = some (octets text) ∧ (octets text).all isReadable = true) ∧
    (∀ name text spelling, isName name = true → (octets text).all isReadable = true → lower spelling = lower name →
      (after.set name text).text? spelling = some text) ∧
    ∀ name text other, lower other ≠ lower name → (after.set name text).text? other = after.text? other := by
  intro after
  have kept : after.WellFormed := headers.well_formed_set_all writes wellFormed
  refine ⟨kept, headers.set_all_values writes, ?_, ?_, ?_⟩
  · exact fun name text => after.text_iff name text kept
  · exact fun name text spelling => after.text_set_same name text spelling
  · exact fun name text other => after.text_set_other name text other

end Writes

theorem writes_replace_values_stale :
    let before : Headers := ⟨[("traceparent", octets "stale"), ("x-bin", [0xff]), ("traceparent", octets "older")]⟩
    let writes := [("TraceParent", "fresh"), ("bad header", "value"), ("x-ok", "line\nbreak"), ("x-note", "café")]
    let after := before.setAll writes
    before.WellFormed ∧ after.values = Table.writeAll before.values writes ∧ after.values "traceparent" = [octets "fresh"] ∧
      after.values "bad header" = [] ∧ after.values "x-ok" = [] ∧ after.values "x-note" = [octets "café"] ∧
      after.text? "TRACEPARENT" = some "fresh" ∧ after.text? "x-note" = none ∧ after.text? "x-bin" = none ∧
      (after.set "X-Ok" "line").text? "x-ok" = some "line" := by
  intro before writes after
  have wellFormed : before.WellFormed := by decide
  obtain ⟨-, values, found, written, -⟩ := before.writes_replace_values wellFormed writes
  have unread (name : String) (value : Octets) (first : (after.values name).head? = some value)
      (hidden : value.all isReadable = false) : after.text? name = none := by
    refine Option.eq_none_iff_forall_ne_some.mpr fun text read => ?_
    obtain ⟨-, same, readable⟩ := (found name text).mp read
    obtain rfl := Option.some.inj (first.symm.trans same)
    exact Bool.false_ne_true (hidden.symm.trans readable)
  refine ⟨wellFormed, values, rfl, rfl, rfl, rfl, ?_, unread "x-note" _ rfl (by decide), unread "x-bin" _ rfl (by decide), ?_⟩
  · exact (found "TRACEPARENT" "fresh").mpr ⟨by decide, rfl, by decide⟩
  · exact written "X-Ok" "line" "x-ok" (by decide) (by decide) rfl

end Headers

end RequestSpans
