set_option autoImplicit false

namespace RequestSpans.Text

def lowerChar (c : Char) : Char := if 'A' ≤ c ∧ c ≤ 'Z' then Char.ofNat (c.toNat + 32) else c

def lower (text : String) : String := String.ofList (text.toList.map lowerChar)

def equalsFolded (a b : List Char) : Bool := a.map lowerChar = b.map lowerChar

theorem capital_cases (c : Char) (capital : 'A' ≤ c ∧ c ≤ 'Z') : ∃ d < 26, c = Char.ofNat ('A'.toNat + d) := by
  have low : 'A'.toNat ≤ c.toNat := capital.1
  have high : c.toNat ≤ 'A'.toNat + 25 := capital.2
  refine ⟨c.toNat - 'A'.toNat, by omega, ?_⟩
  rw [Nat.add_sub_cancel' low, Char.ofNat_toNat]

theorem lower_char_cases (c : Char) :
    lowerChar c = c ∨ ∃ d < 26, c = Char.ofNat ('A'.toNat + d) ∧ lowerChar c = Char.ofNat ('a'.toNat + d) := by
  by_cases capital : 'A' ≤ c ∧ c ≤ 'Z'
  · obtain ⟨d, small, rfl⟩ := capital_cases c capital
    have partner : ∀ d < 26, lowerChar (Char.ofNat ('A'.toNat + d)) = Char.ofNat ('a'.toNat + d) := by decide
    exact .inr ⟨d, small, rfl, partner d small⟩
  · exact .inl (if_neg capital)

theorem lower_char_lower (c : Char) : lowerChar (lowerChar c) = lowerChar c := by
  rcases lower_char_cases c with same | ⟨d, small, rfl, partner⟩
  · rw [same, same]
  · have low : ∀ d < 26, lowerChar (Char.ofNat ('a'.toNat + d)) = Char.ofNat ('a'.toNat + d) := by decide
    rw [partner, low d small]

theorem lower_lower (text : String) : lower (lower text) = lower text := by
  have chars : (text.toList.map lowerChar).map lowerChar = text.toList.map lowerChar := by
    rw [List.map_map]
    exact List.map_congr_left fun c _ => lower_char_lower c
  rw [lower, lower, String.toList_ofList, chars]

end RequestSpans.Text
