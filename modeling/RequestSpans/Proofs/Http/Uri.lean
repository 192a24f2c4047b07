import RequestSpans.Http.Uri
import RequestSpans.Text.Split

set_option autoImplicit false

namespace RequestSpans.Uri

def isHostChar (c : Char) : Bool := isAuthorityChar c || c = '%'

inductive Host : List Char → Prop
  | name (text : List Char) (some_ : text ≠ []) (chars : ∀ c ∈ text, isHostChar c = true) : Host text
  | literal (text : List Char) (chars : ∀ c ∈ text, isHostChar c = true ∨ c = ':') : Host ('[' :: (text ++ [']']))

inductive Port : Option Nat → List Char → Prop
  | absent : Port none []
  | given (zeros number : Nat) (low : number ≤ 65535) : Port (some number) (':' :: Text.decimal zeros number)

def Place (text : List Char) : Prop := (∃ rest, text = '/' :: rest) ∧ '#' ∉ text

-- What the absolute form can carry of a host: encoded characters only in brackets, and
-- eight colons.
def Carried (host : List Char) : Prop := ('%' ∈ host → '[' ∈ host) ∧ host.count ':' ≤ 8

theorem host_char_apart (c : Char) (valid : isHostChar c = true) (other : Char) (outside : isHostChar other = false) :
    c ≠ other := by
  rintro rfl
  rw [valid] at outside
  contradiction

theorem digit_host_char (c : Char) (digit : c.isDigit = true) : isHostChar c = true := by
  simp [isHostChar, isAuthorityChar, Char.isAlphanum, digit]

namespace AuthorityScan

theorem run_append (s : AuthorityScan) (front back : List Char) :
    run? s (front ++ back) = (run? s front).bind fun next => run? next back := by
  induction front generalizing s with
  | nil => rfl
  | cons c rest ih =>
      rw [List.cons_append, run?, run?]
      cases s.next? c with
      | none => rfl
      | some next => exact ih next

theorem next_host_char (s : AuthorityScan) (c : Char) (valid : isHostChar c = true) :
    s.next? c = some { s with percent := s.percent || c = '%' } := by
  rw [next?, if_neg (host_char_apart c valid ':' rfl), if_neg (host_char_apart c valid '[' rfl),
    if_neg (host_char_apart c valid ']' rfl), if_neg (host_char_apart c valid '@' rfl)]
  by_cases percent : c = '%'
  · rw [if_pos percent, decide_eq_true percent, Bool.or_true]
  · have plain : isAuthorityChar c = true := by simpa [isHostChar, percent] using valid
    rw [if_neg percent, if_pos plain, decide_eq_false percent, Bool.or_false]

theorem run_host_chars (s : AuthorityScan) (text : List Char) (chars : ∀ c ∈ text, isHostChar c = true) :
    run? s text = some { s with percent := s.percent || text.contains '%' } := by
  induction text generalizing s with
  | nil => simp [run?]
  | cons c rest ih =>
      rw [run?, next_host_char s c (chars c List.mem_cons_self), Option.bind_some,
        ih _ fun other member => chars other (List.mem_cons_of_mem c member)]
      simp [Bool.or_assoc, eq_comm]

-- Inside brackets colons are counted, and the ninth is refused.
theorem run_literal_chars (s : AuthorityScan) (text : List Char) (chars : ∀ c ∈ text, isHostChar c = true ∨ c = ':')
    (few : s.colons ≤ 8) :
    run? s text =
      if s.colons + text.count ':' ≤ 8 then
        some { s with colons := s.colons + text.count ':', percent := s.percent || text.contains '%' }
      else none := by
  induction text generalizing s with
  | nil => simp [run?, few]
  | cons c rest ih =>
      have others := fun other member => chars other (List.mem_cons_of_mem c member)
      rw [run?]
      rcases chars c List.mem_cons_self with host | rfl
      · have colon : (c == ':') = false := beq_eq_false_iff_ne.mpr (host_char_apart c host ':' rfl)
        rw [next_host_char s c host, Option.bind_some, ih { s with percent := s.percent || decide (c = '%') } others few]
        simp [List.count_cons, colon, Bool.or_assoc, eq_comm]
      · by_cases full : s.colons ≥ 8
        · have none_ : s.next? ':' = none := by simp [next?, full]
          rw [none_, Option.bind_none, List.count_cons_self, if_neg (by omega)]
        · have more : s.next? ':' = some { s with colons := s.colons + 1 } := by simp [next?, full]
          rw [more, Option.bind_some, ih _ others (by simp; omega), List.count_cons_self]
          simp [Nat.add_assoc, Nat.add_comm 1]

theorem run_literal (text : List Char) (chars : ∀ c ∈ text, isHostChar c = true ∨ c = ':') :
    run? .start ('[' :: (text ++ [']'])) = if text.count ':' ≤ 8 then some ⟨0, true, true, false⟩ else none := by
  have opened : AuthorityScan.start.next? '[' = some ⟨0, true, false, false⟩ := rfl
  rw [run?, opened, Option.bind_some, run_append, run_literal_chars _ text chars (Nat.zero_le 8)]
  simp only [Nat.zero_add]
  split
  · rfl
  · rfl

theorem run_port (s : AuthorityScan) (port : Option Nat) (text : List Char) (form : Port port text)
    (fresh : s.colons = 0) : ∃ colons ≤ 1, run? s text = some { s with colons := colons } := by
  cases form with
  | absent => exact ⟨0, by decide, by simp [run?, ← fresh]⟩
  | given zeros number low =>
      have chars : ∀ c ∈ Text.decimal zeros number, isHostChar c = true :=
        fun c member => digit_host_char c (Text.decimal_digit zeros number c member)
      have percent : '%' ∉ Text.decimal zeros number :=
        fun member => absurd (Text.decimal_digit zeros number '%' member) (by decide)
      have colon : s.next? ':' = some { s with colons := 1 } := by simp [next?, fresh]
      refine ⟨1, Nat.le_refl 1, ?_⟩
      rw [run?, colon, Option.bind_some, run_host_chars _ _ chars]
      simp [percent]

end AuthorityScan

section Address

variable {host : List Char} {port : Option Nat} {portText : List Char}

theorem port_host_chars (given : Port port portText) (c : Char) (member : c ∈ portText) : isHostChar c = true ∨ c = ':' := by
  cases given with
  | absent => exact absurd member List.not_mem_nil
  | given zeros number low =>
      rcases List.mem_cons.mp member with same | digit
      · exact .inr same
      · exact .inl (digit_host_char c (Text.decimal_digit zeros number c digit))

theorem host_chars (form : Host host) (c : Char) (member : c ∈ host) :
    isHostChar c = true ∨ c = ':' ∨ c = '[' ∨ c = ']' := by
  cases form with
  | name _ _ chars => exact .inl (chars c member)
  | literal text chars =>
      simp only [List.mem_cons, List.mem_append, List.not_mem_nil, or_false] at member
      rcases member with opened | inside | closed
      · exact .inr (.inr (.inl opened))
      · exact (chars c inside).imp_right .inl
      · exact .inr (.inr (.inr closed))

theorem address_lacks (form : Host host) (given : Port port portText) (c : Char) (outside : isHostChar c = false)
    (sign : c ≠ ':' ∧ c ≠ '[' ∧ c ≠ ']') : c ∉ host ++ portText := by
  intro member
  rcases List.mem_append.mp member with front | back
  · rcases host_chars form c front with valid | colon | opened | closed
    · exact host_char_apart c valid c outside rfl
    · exact sign.1 colon
    · exact sign.2.1 opened
    · exact sign.2.2 closed
  · rcases port_host_chars given c back with valid | colon
    · exact host_char_apart c valid c outside rfl
    · exact sign.1 colon

theorem host_some (form : Host host) : host ≠ [] := by
  cases form with
  | name _ some_ _ => exact some_
  | literal => exact List.cons_ne_nil _ _

theorem name_carried (text : List Char) (chars : ∀ c ∈ text, isHostChar c = true) : Carried text ↔ '%' ∉ text := by
  have lacks (c : Char) (outside : isHostChar c = false) : c ∉ text :=
    fun member => host_char_apart c (chars c member) c outside rfl
  have none_ : text.count ':' = 0 := List.count_eq_zero.mpr (lacks ':' rfl)
  simp [Carried, none_, lacks '[' rfl]

theorem literal_carried (text : List Char) : Carried ('[' :: (text ++ [']'])) ↔ text.count ':' ≤ 8 := by
  simp [Carried]

theorem address_authority (form : Host host) (given : Port port portText) :
    isAuthority (host ++ portText) = true ↔ Carried host := by
  have open_ : (host ++ portText).getLast? ≠ some '@' := fun last =>
    address_lacks form given '@' rfl (by decide) (List.mem_of_getLast? last)
  rw [isAuthority, decide_eq_true open_, Bool.true_and, AuthorityScan.run_append]
  cases form with
  | name text some_ chars =>
      rw [AuthorityScan.run_host_chars .start host chars, Option.bind_some, name_carried host chars]
      obtain ⟨colons, few, ran⟩ := AuthorityScan.run_port
        { AuthorityScan.start with percent := AuthorityScan.start.percent || host.contains '%' } port portText given rfl
      rw [ran]
      simp [AuthorityScan.accepts, AuthorityScan.start, few]
  | literal text chars =>
      rw [AuthorityScan.run_literal text chars, literal_carried]
      by_cases few : text.count ':' ≤ 8
      · obtain ⟨colons, single, ran⟩ := AuthorityScan.run_port ⟨0, true, true, false⟩ port portText given rfl
        rw [if_pos few, Option.bind_some, ran]
        simp [AuthorityScan.accepts, single, few]
      · rw [if_neg few, Option.bind_none]
        exact iff_of_false Bool.false_ne_true few

theorem take_authority_address (form : Host host) (given : Port port portText) (rest : List Char) :
    takeAuthority? (host ++ portText ++ '/' :: rest) =
      if isAuthority (host ++ portText) then some (host ++ portText, '/' :: rest) else none := by
  have inside : ∀ c ∈ host ++ portText, (!endsAuthority c) = true := by
    intro c member
    have apart (d : Char) (outside : isHostChar d = false) (sign : d ≠ ':' ∧ d ≠ '[' ∧ d ≠ ']') : c ≠ d :=
      fun same => address_lacks form given d outside sign (same ▸ member)
    simp [endsAuthority, apart '/' rfl (by decide), apart '?' rfl (by decide), apart '#' rfl (by decide)]
  have taken : (host ++ portText ++ '/' :: rest).takeWhile (fun c => !endsAuthority c) = host ++ portText := by
    rw [List.takeWhile_append_of_pos inside]
    simp [endsAuthority]
  have left : (host ++ portText ++ '/' :: rest).dropWhile (fun c => !endsAuthority c) = '/' :: rest := by
    rw [List.dropWhile_append_of_pos inside]
    simp [endsAuthority]
  rw [takeAuthority?, taken, left]

end Address

section Forms

theorem target_place (place target : List Char) (isPlace : Place place) (read : target? place = some target) :
    target = place := by
  rw [target?, Text.take_while_clean '#' place isPlace.2] at read
  split at read
  · exact (Option.some.inj read).symm
  · contradiction

variable {host portText place : String} {port : Option Nat}

def url (scheme host portText place : String) : String := scheme ++ "://" ++ host ++ portText ++ place

theorem url_chars (scheme : String) :
    (url scheme host portText place).toList =
      scheme.toList ++ ("://".toList ++ (host.toList ++ portText.toList ++ place.toList)) := by
  simp [url]

theorem parse_scheme (scheme : String) (known : scheme = "http" ∨ scheme = "https") (whole : String) (rest : List Char)
    (text : whole.toList = scheme.toList ++ ("://".toList ++ rest)) :
    parse? whole = if whole.utf8ByteSize > 65534 then none else absolute? scheme.toList rest := by
  rcases known with rfl | rfl
  · simp only [parse?, text]
    rfl
  · simp only [parse?, text]
    rfl

theorem absolute_address (scheme : List Char) (form : Host host.toList) (given : Port port portText.toList)
    (isPlace : Place place.toList) :
    absolute? scheme (host.toList ++ portText.toList ++ place.toList) =
      if isAuthority (host.toList ++ portText.toList) then
        (target? place.toList).map fun target =>
          ⟨some (String.ofList scheme), some (host ++ portText), String.ofList target⟩
      else none := by
  obtain ⟨rest, slash⟩ := isPlace.1
  have address : String.ofList (host.toList ++ portText.toList) = host ++ portText := by
    rw [← String.toList_append, String.ofList_toList]
  rw [absolute?, slash, take_authority_address form given rest]
  by_cases carried : isAuthority (host.toList ++ portText.toList) = true
  · rw [if_pos carried, if_pos carried]
    cases authority : host.toList ++ portText.toList with
    | nil => exact absurd (List.append_eq_nil_iff.mp authority).1 (host_some form)
    | cons c others => simp only [← authority, address]
  · rw [if_neg carried, if_neg carried]

theorem read_place_iff (isPlace : Place place.toList) (make : String → Uri) (uri : Uri) :
    ((target? place.toList).map fun target => make (String.ofList target)) = some uri ↔
      (target? place.toList).isSome = true ∧ uri = make place := by
  cases read : target? place.toList with
  | none => simp
  | some target =>
      obtain rfl := target_place place.toList target isPlace read
      simp [eq_comm]

theorem parse_place_iff (isPlace : Place place.toList) (uri : Uri) :
    parse? place = some uri ↔
      place.utf8ByteSize ≤ 65534 ∧ (target? place.toList).isSome = true ∧ uri = ⟨none, none, place⟩ := by
  obtain ⟨rest, slash⟩ := isPlace.1
  have parsed : parse? place =
      if place.utf8ByteSize > 65534 then none
      else (target? place.toList).map fun target => ⟨none, none, String.ofList target⟩ := by
    simp only [parse?, slash]
  rw [parsed]
  by_cases long : place.utf8ByteSize > 65534
  · rw [if_pos long]
    exact iff_of_false nofun fun read => absurd read.1 (Nat.not_le.mpr long)
  · rw [if_neg long, read_place_iff isPlace (fun target => ⟨none, none, target⟩) uri]
    exact (and_iff_right (Nat.not_lt.mp long)).symm

theorem parse_url_iff (scheme : String) (known : scheme = "http" ∨ scheme = "https") (form : Host host.toList)
    (given : Port port portText.toList) (isPlace : Place place.toList) (uri : Uri) :
    parse? (url scheme host portText place) = some uri ↔
      (url scheme host portText place).utf8ByteSize ≤ 65534 ∧ Carried host.toList ∧
        (target? place.toList).isSome = true ∧ uri = ⟨some scheme, some (host ++ portText), place⟩ := by
  rw [parse_scheme scheme known _ _ (url_chars scheme), absolute_address _ form given isPlace,
    String.ofList_toList, ← address_authority form given]
  by_cases long : (url scheme host portText place).utf8ByteSize > 65534
  · rw [if_pos long]
    exact iff_of_false nofun fun read => absurd read.1 (Nat.not_le.mpr long)
  · rw [if_neg long, and_iff_right (Nat.not_lt.mp long)]
    by_cases carried : isAuthority (host.toList ++ portText.toList) = true
    · rw [if_pos carried, and_iff_right carried]
      exact read_place_iff isPlace (fun target => ⟨some scheme, some (host ++ portText), target⟩) uri
    · rw [if_neg carried]
      exact iff_of_false nofun fun read => carried read.1

end Forms

end RequestSpans.Uri
