import RequestSpans.Http.Header

set_option autoImplicit false

namespace RequestSpans.Headers

def isText (text : String) : Bool := (octets text).all isReadable

def Plain (c : Char) : Prop := c = '\t' ∨ ' ' ≤ c ∧ c ≤ '~'

theorem plain_between (c low high : Char) (below : ' ' ≤ low) (above : high ≤ '~') (first : low ≤ c) (last : c ≤ high) : Plain c :=
  .inr ⟨Char.le_trans below first, Char.le_trans last above⟩

theorem octets_flat_map (text : String) : octets text = text.toList.flatMap String.utf8EncodeChar := by
  rw [octets, String.toUTF8_eq_toByteArray, ← String.utf8Encode_toList, List.utf8Encode, List.toList_data_toByteArray]

-- An ASCII character is sent as itself, and any other as octets beyond ASCII only.
theorem encode_char_cases (c : Char) :
    (c.toNat < 128 ∧ String.utf8EncodeChar c = [UInt8.ofNat c.toNat]) ∨
      (128 ≤ c.toNat ∧ String.utf8EncodeChar c ≠ [] ∧ ∀ octet ∈ String.utf8EncodeChar c, 128 ≤ octet.toNat) := by
  rcases Nat.lt_or_ge c.toNat 128 with ascii | beyond
  · have single : c.val.toNat ≤ 127 := Nat.le_of_lt_succ ascii
    exact .inl ⟨ascii, by rw [String.utf8EncodeChar]; exact if_pos single⟩
  · have several : ¬c.val.toNat ≤ 127 := Nat.not_le.mpr beyond
    refine .inr ⟨beyond, ?_, ?_⟩
    · simp only [String.utf8EncodeChar, several, if_false]
      split
      · simp
      · split <;> simp
    · simp only [String.utf8EncodeChar, several, if_false]
      split
      · simp
        omega
      · split <;> simp <;> omega

theorem octets_all_iff (p : UInt8 → Bool) (Q : Char → Prop)
    (each : ∀ c, (∀ octet ∈ String.utf8EncodeChar c, p octet = true) ↔ Q c) (text : String) :
    (octets text).all p = true ↔ ∀ c ∈ text.toList, Q c := by
  rw [octets_flat_map, List.all_eq_true]
  constructor
  · intro all c member
    exact (each c).mp fun octet inside => all octet (List.mem_flatMap.mpr ⟨c, member, inside⟩)
  · intro all octet member
    obtain ⟨c, known, inside⟩ := List.mem_flatMap.mp member
    exact (each c).mpr (all c known) octet inside

theorem readable_iff (octet : UInt8) :
    isReadable octet = true ↔ octet.toNat = 9 ∨ 32 ≤ octet.toNat ∧ octet.toNat < 127 := by
  simp only [isReadable, Bool.or_eq_true, Bool.and_eq_true, decide_eq_true_eq, ← UInt8.toNat_inj,
    UInt8.le_iff_toNat_le, UInt8.lt_iff_toNat_lt]
  rfl

theorem readable_sendable (octet : UInt8) (readable : isReadable octet = true) : isSendable octet = true := by
  rw [readable_iff] at readable
  simp only [isSendable, Bool.or_eq_true, Bool.and_eq_true, decide_eq_true_eq, ← UInt8.toNat_inj,
    UInt8.le_iff_toNat_le, ne_eq]
  rcases readable with tab | ⟨low, high⟩
  · exact .inl tab
  · exact .inr ⟨low, Nat.ne_of_lt high⟩

theorem plain_iff (c : Char) : Plain c ↔ c.toNat = 9 ∨ 32 ≤ c.toNat ∧ c.toNat < 127 := by
  simp only [Plain, ← Char.toNat_inj, Char.le_def, UInt32.le_iff_toNat_le]
  exact or_congr_right (and_congr_right fun _ => Nat.lt_succ_iff.symm)

theorem ascii_octet (c : Char) (ascii : c.toNat < 128) : (UInt8.ofNat c.toNat).toNat = c.toNat :=
  UInt8.toNat_ofNat_of_lt' (Nat.lt_trans ascii (by decide))

theorem readable_char (c : Char) : (∀ octet ∈ String.utf8EncodeChar c, isReadable octet = true) ↔ Plain c := by
  rw [plain_iff]
  rcases encode_char_cases c with ⟨ascii, encoded⟩ | ⟨beyond, some_, octets⟩
  · rw [encoded, List.forall_mem_singleton, readable_iff, ascii_octet c ascii]
  · obtain ⟨octet, member⟩ := List.exists_mem_of_ne_nil _ some_
    refine iff_of_false (fun all => ?_) (by omega)
    have low := (readable_iff octet).mp (all octet member)
    have high := octets octet member
    omega

theorem is_text_iff (text : String) : isText text = true ↔ ∀ c ∈ text.toList, Plain c :=
  octets_all_iff isReadable Plain readable_char text

theorem text_is_value (text : String) (plain : isText text = true) : isValue text = true := by
  rw [isText, List.all_eq_true] at plain
  rw [isValue, List.all_eq_true]
  exact fun octet member => readable_sendable octet (plain octet member)

theorem plain_encoded (c : Char) (plain : Plain c) : String.utf8EncodeChar c = [UInt8.ofNat c.toNat] := by
  rcases encode_char_cases c with ⟨-, encoded⟩ | ⟨beyond, -, -⟩
  · exact encoded
  · have low := (plain_iff c).mp plain
    omega

theorem to_char_nat (octet : UInt8) : (Char.ofUInt8 octet).toNat = octet.toNat := UInt8.toNat_toUInt32 octet

theorem plain_octet (c : Char) (plain : Plain c) : Char.ofUInt8 (UInt8.ofNat c.toNat) = c := by
  have low := (plain_iff c).mp plain
  rw [← Char.toNat_inj, to_char_nat, ascii_octet c (by omega)]

theorem octet_plain (octet : UInt8) (readable : isReadable octet = true) :
    Plain (Char.ofUInt8 octet) ∧ UInt8.ofNat (Char.ofUInt8 octet).toNat = octet := by
  rw [plain_iff, to_char_nat]
  exact ⟨(readable_iff octet).mp readable, UInt8.ofNat_toNat⟩

theorem read_iff (value : Octets) (text : String) : read? value = some text ↔ value = octets text ∧ isText text = true := by
  have decoded (chars : List Char) (plain : ∀ c ∈ chars, Plain c) :
      (chars.flatMap String.utf8EncodeChar).map Char.ofUInt8 = chars := by
    induction chars with
    | nil => rfl
    | cons c rest ih =>
        have first := plain c List.mem_cons_self
        rw [List.flatMap_cons, plain_encoded c first, List.map_append, ih fun d member => plain d (List.mem_cons_of_mem c member),
          List.map_singleton, plain_octet c first]
        rfl
  have encoded (value : Octets) (readable : ∀ octet ∈ value, isReadable octet = true) :
      (value.map Char.ofUInt8).flatMap String.utf8EncodeChar = value := by
    induction value with
    | nil => rfl
    | cons octet rest ih =>
        obtain ⟨plain, same⟩ := octet_plain octet (readable octet List.mem_cons_self)
        rw [List.map_cons, List.flatMap_cons, plain_encoded _ plain, same,
          ih fun other member => readable other (List.mem_cons_of_mem octet member)]
        rfl
  rw [read?]
  constructor
  · intro read
    split at read
    · rename_i readable
      obtain rfl := Option.some.inj read
      have back : octets (String.ofList (value.map Char.ofUInt8)) = value := by
        rw [octets_flat_map, String.toList_ofList]
        exact encoded value (List.all_eq_true.mp readable)
      exact ⟨back.symm, by rw [isText, back]; exact readable⟩
    · contradiction
  · rintro ⟨rfl, plain⟩
    have chars := (is_text_iff text).mp plain
    rw [isText] at plain
    rw [if_pos plain, octets_flat_map, decoded text.toList chars, String.ofList_toList]

theorem read_octets (text : String) : read? (octets text) = if isText text then some text else none := by
  by_cases plain : isText text = true
  · rw [if_pos plain]
    exact (read_iff _ text).mpr ⟨rfl, plain⟩
  · rw [if_neg plain, read?, ← isText, if_neg plain]

theorem found_text (headers : Headers) (name text : String) (found : headers.text? name = some text) : isText text = true := by
  obtain ⟨value, -, read⟩ := Option.bind_eq_some_iff.mp found
  exact ((read_iff value text).mp read).2

end RequestSpans.Headers
