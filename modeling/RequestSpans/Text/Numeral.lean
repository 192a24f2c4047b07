set_option autoImplicit false

namespace RequestSpans.Text

def digitValue (c : Char) : Option Nat :=
  if '0' ≤ c ∧ c ≤ '9' then some (c.toNat - '0'.toNat)
  else if 'a' ≤ c ∧ c ≤ 'f' then some (c.toNat - 'a'.toNat + 10)
  else if 'A' ≤ c ∧ c ≤ 'F' then some (c.toNat - 'A'.toNat + 10)
  else none

def digit? (base : Nat) (c : Char) : Option Nat := (digitValue c).filter (· < base)

def digits? (base : Nat) : Nat → List Char → Option Nat
  | acc, [] => some acc
  | acc, c :: rest =>
    match digit? base c with
    | some d => digits? base (acc * base + d) rest
    | none => none

def unsigned? (base bound : Nat) (text : List Char) : Option Nat :=
  let digits := match text with
    | '+' :: rest => rest
    | _ => text
  if digits.isEmpty then none else (digits? base 0 digits).filter (· ≤ bound)

def hexDigit (n : Nat) : Char :=
  if n < 10 then Char.ofNat ('0'.toNat + n) else Char.ofNat ('a'.toNat + n - 10)

def hex : Nat → Nat → List Char
  | 0, _ => []
  | width + 1, n => hex width (n / 16) ++ [hexDigit (n % 16)]

theorem digit_hex_digit : ∀ d < 16, digit? 16 (hexDigit d) = some d := by decide

theorem digits_append (base acc : Nat) (front back : List Char) :
    digits? base acc (front ++ back) = (digits? base acc front).bind fun value => digits? base value back := by
  induction front generalizing acc with
  | nil => rfl
  | cons c rest ih =>
      simp only [List.cons_append, digits?]
      cases digit? base c with
      | none => rfl
      | some d => exact ih _

theorem digits_hex (width n acc : Nat) :
    digits? 16 acc (hex width n) = some (acc * Nat.pow 16 width + n % Nat.pow 16 width) := by
  induction width generalizing n with
  | zero => simp [hex, digits?, Nat.pow, Nat.mod_one]
  | succ width ih =>
      have last : digit? 16 (hexDigit (n % 16)) = some (n % 16) := digit_hex_digit _ (Nat.mod_lt n (by decide))
      rw [hex, digits_append, ih, Option.bind_some]
      simp only [digits?, last, Option.some.injEq]
      rw [show Nat.pow 16 (width + 1) = 16 * Nat.pow 16 width from Nat.mul_comm _ _, Nat.mod_mul, Nat.add_mul,
        Nat.mul_left_comm]
      omega

theorem mem_hex (width n : Nat) (c : Char) (member : c ∈ hex width n) : ∃ d < 16, c = hexDigit d := by
  induction width generalizing n with
  | zero => simp [hex] at member
  | succ width ih =>
      rcases List.mem_append.mp member with front | last
      · exact ih (n / 16) front
      · exact ⟨n % 16, Nat.mod_lt n (by decide), List.mem_singleton.mp last⟩

theorem hex_all (p : Char → Bool) (digits : ∀ d < 16, p (hexDigit d) = true) (width n : Nat) (c : Char)
    (member : c ∈ hex width n) : p c = true := by
  obtain ⟨d, small, rfl⟩ := mem_hex width n c member
  exact digits d small

theorem unsigned_digits (base bound n : Nat) (text : List Char) (digits : digits? base 0 text = some n) (some_ : text ≠ [])
    (bare : '+' ∉ text) (low : n ≤ bound) : unsigned? base bound text = some n := by
  unfold unsigned?
  split
  · exact absurd List.mem_cons_self bare
  · simp only [List.isEmpty_eq_false_iff.mpr some_, digits, Bool.false_eq_true, if_false, Option.filter_some, low,
      decide_true, if_true]

theorem digits_none (base acc : Nat) (text : List Char) (c : Char) (member : c ∈ text) (other : digit? base c = none) :
    digits? base acc text = none := by
  induction text generalizing acc with
  | nil => exact absurd member List.not_mem_nil
  | cons first rest ih =>
      rw [digits?]
      rcases List.mem_cons.mp member with rfl | later
      · rw [other]
      · cases digit? base first with
        | none => rfl
        | some d => exact ih _ later

theorem unsigned_none (base bound : Nat) (text : List Char) (c : Char) (member : c ∈ text) (other : digit? base c = none)
    (sign : c ≠ '+') : unsigned? base bound text = none := by
  unfold unsigned?
  split
  · rename_i rest
    have later : c ∈ rest := (List.mem_cons.mp member).resolve_left sign
    simp only [digits_none base 0 rest c later other, Option.filter_none, ite_self]
  · simp only [digits_none base 0 text c member other, Option.filter_none, ite_self]

theorem unsigned_hex (bound width n : Nat) (wide : 0 < width) (fits : n < Nat.pow 16 width) (low : n ≤ bound) :
    unsigned? 16 bound (hex width n) = some n := by
  have bare : '+' ∉ hex width n := by
    intro plus
    have digit := hex_all (fun c => c != '+') (by decide) width n '+' plus
    simp at digit
  have nonempty : hex width n ≠ [] := by
    cases width with
    | zero => contradiction
    | succ width => exact List.append_ne_nil_of_right_ne_nil _ (List.cons_ne_nil _ _)
  have digits : digits? 16 0 (hex width n) = some n := by
    rw [digits_hex, Nat.mod_eq_of_lt fits, Nat.zero_mul, Nat.zero_add]
  exact unsigned_digits 16 bound n _ digits nonempty bare low

def decimal (zeros n : Nat) : List Char := List.replicate zeros '0' ++ Nat.toDigits 10 n

theorem digit_digit_char : ∀ d < 10, digit? 10 d.digitChar = some d := by decide

theorem digits_to_digits (n : Nat) : digits? 10 0 (Nat.toDigits 10 n) = some n := by
  induction n using Nat.strongRecOn with
  | ind n ih =>
      rw [Nat.toDigits_eq_if (by decide)]
      split
      · rename_i small
        simp only [digits?, digit_digit_char n small, Nat.zero_mul, Nat.zero_add]
      · rename_i large
        have last : digit? 10 (n % 10).digitChar = some (n % 10) := digit_digit_char _ (Nat.mod_lt n (by decide))
        rw [digits_append, ih (n / 10) (by omega), Option.bind_some]
        simp only [digits?, last, Option.some.injEq]
        omega

theorem digits_decimal (zeros n : Nat) : digits? 10 0 (decimal zeros n) = some n := by
  have zero : digit? 10 '0' = some 0 := by decide
  induction zeros with
  | zero => exact digits_to_digits n
  | succ zeros ih =>
      rw [decimal, List.replicate_succ, List.cons_append, digits?, zero]
      exact ih

theorem decimal_digit (zeros n : Nat) (c : Char) (member : c ∈ decimal zeros n) : c.isDigit = true := by
  rcases List.mem_append.mp member with front | back
  · rw [List.eq_of_mem_replicate front]
    rfl
  · exact Nat.isDigit_of_mem_toDigits (by decide) (by decide) back

theorem unsigned_decimal (bound zeros n : Nat) (low : n ≤ bound) : unsigned? 10 bound (decimal zeros n) = some n := by
  have bare : '+' ∉ decimal zeros n := fun plus => absurd (decimal_digit zeros n '+' plus) (by decide)
  have nonempty : decimal zeros n ≠ [] := List.append_ne_nil_of_right_ne_nil _ Nat.toDigits_ne_nil
  exact unsigned_digits 10 bound n _ (digits_decimal zeros n) nonempty bare low

end RequestSpans.Text
