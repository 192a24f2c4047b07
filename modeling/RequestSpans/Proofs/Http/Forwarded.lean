import RequestSpans.Http.Target
import RequestSpans.Proofs.Http.Octets
import RequestSpans.Proofs.Http.Uri

/-!
What a proxy reported, by the grammar of the `Forwarded` field: elements at commas, in each of them
pairs at semicolons, values as tokens or in quotes. The scheme is read without regard to quotes. It
is what the first element says as long as nothing in quotes separates; a comma in quotes ahead of
it hides it.
-/
set_option autoImplicit false

namespace RequestSpans.Forwarded

def isFieldChar (c : Char) : Bool := c = '\t' || (' ' ≤ c && c ≠ '\x7f')

def isQuotedChar (c : Char) : Bool := isFieldChar c && c ≠ '"' && c ≠ '\\'

structure Token where
  name : String
  valid : isToken name = true

def Token.text (token : Token) : List Char := token.name.toList

inductive Item
  | plain (c : Char) (valid : isQuotedChar c = true)
  | escaped (c : Char) (valid : isFieldChar c = true)

namespace Item

def text : Item → List Char
  | plain c _ => [c]
  | escaped c _ => ['\\', c]

def char : Item → Char
  | plain c _ => c
  | escaped c _ => c

def isPlain : Item → Bool
  | plain _ _ => true
  | escaped _ _ => false

end Item

inductive Value
  | token (known : Token)
  | quoted (items : List Item)

namespace Value

def text : Value → List Char
  | token known => known.text
  | quoted items => '"' :: (items.flatMap Item.text ++ ['"'])

def meaning : Value → List Char
  | token known => known.text
  | quoted items => items.map Item.char

def isPlain : Value → Bool
  | token _ => true
  | quoted items => items.all Item.isPlain

end Value

structure Pair where
  name : Token
  value : Value

namespace Pair

def parts (pair : Pair) : List Char × List Char := (pair.name.text, pair.value.text)

def text (pair : Pair) : List Char := pair.name.text ++ '=' :: pair.value.text

end Pair

def isProto (pair : List Char × List Char) : Bool := Text.equalsFolded pair.1 "proto".toList

structure Slot where
  before : List Char
  pair : Option Pair
  after : List Char
  blank : ∀ c ∈ before ++ after, Text.isBlank c = true

namespace Slot

def bare (pair : Pair) : Slot := ⟨[], some pair, [], nofun⟩

def text (slot : Slot) : List Char := slot.before ++ ((slot.pair.map Pair.text).getD [] ++ slot.after)

def proto? (slot : Slot) : Option Value := (slot.pair.filter fun pair => isProto pair.parts).map Pair.value

end Slot

structure Element where
  first : Slot
  others : List Slot

namespace Element

def slots (element : Element) : List Slot := element.first :: element.others

def text (element : Element) : List Char := Text.join ';' (element.slots.map Slot.text)

def proto? (element : Element) : Option Value := element.slots.findSome? Slot.proto?

end Element

structure Field where
  first : Element
  others : List Element

def Field.text (field : Field) : List Char := Text.join ',' ((field.first :: field.others).map Element.text)

def isSeparator (c : Char) : Bool := c = ',' || c = ';'

-- Up to the scheme there is no separator in quotes, and no backslash in the scheme.
def isLegible : List Slot → Bool
  | [] => true
  | slot :: others =>
    !slot.text.any isSeparator &&
      match slot.proto? with
      | some value => value.isPlain
      | none => isLegible others

-- Ahead of a scheme there is a comma in quotes, and no semicolon in quotes ahead of that.
def isCut : List Slot → Bool
  | [] => false
  | slot :: others =>
    slot.proto?.isNone && (slot.text.find? isSeparator = some ',' || (!slot.text.any isSeparator && isCut others))

section Texts

theorem token_some (token : Token) : token.text ≠ [] := by
  intro empty
  have valid := token.valid
  rw [isToken, ← Token.text, empty] at valid
  contradiction

theorem token_chars (token : Token) (c : Char) (member : c ∈ token.text) : isTokenChar c = true := by
  have valid := token.valid
  rw [isToken, Bool.and_eq_true] at valid
  exact List.all_eq_true.mp valid.2 c member

theorem token_lacks (token : Token) (c : Char) (outside : isTokenChar c = false) : c ∉ token.text := by
  intro member
  rw [token_chars token c member] at outside
  contradiction

theorem blank_cases (c : Char) (blank : Text.isBlank c = true) : c = ' ' ∨ c = '\t' := by
  simpa [Text.isBlank] using blank

theorem token_char_visible (c : Char) (valid : isTokenChar c = true) : Text.isBlank c = false := by
  cases blank : Text.isBlank c with
  | false => rfl
  | true =>
      rcases blank_cases c blank with rfl | rfl
      · exact absurd valid (by decide)
      · exact absurd valid (by decide)

theorem pair_first (pair : Pair) (c : Char) (first : c ∈ pair.text.head?) : Text.isBlank c = false := by
  rw [Pair.text, List.head?_append, List.head?_eq_some_head (token_some pair.name), Option.some_or] at first
  obtain rfl := Option.some.inj first
  exact token_char_visible _ (token_chars pair.name _ (List.head_mem _))

theorem value_last (value : Value) (c : Char) (last : c ∈ value.text.getLast?) : Text.isBlank c = false := by
  cases value with
  | token known => exact token_char_visible c (token_chars known c (List.mem_of_getLast? last))
  | quoted items =>
      rw [Value.text, ← List.cons_append, List.getLast?_concat] at last
      obtain rfl := Option.some.inj last
      rfl

theorem value_some (value : Value) : value.text ≠ [] := by
  cases value with
  | token known => exact token_some known
  | quoted items => exact List.cons_ne_nil _ _

theorem pair_last (pair : Pair) (c : Char) (last : c ∈ pair.text.getLast?) : Text.isBlank c = false := by
  have whole : pair.text = (pair.name.text ++ ['=']) ++ pair.value.text := by simp [Pair.text]
  have end_ := List.getLast?_eq_some_getLast (value_some pair.value)
  rw [whole, List.getLast?_append, end_, Option.some_or, ← end_] at last
  exact value_last pair.value c last

end Texts

section Slots

def readSlot (text : List Char) : Option (List Char × List Char) :=
  Text.splitFirst '=' (Text.trimWhile Text.isBlank text)

theorem slot_trimmed (slot : Slot) : Text.trimWhile Text.isBlank slot.text = (slot.pair.map Pair.text).getD [] := by
  rw [Slot.text]
  refine Text.trim_while_between _ _ _ _ slot.blank ?_ ?_
  · cases slot.pair with
    | none => exact nofun
    | some pair => exact pair_first pair
  · cases slot.pair with
    | none => exact nofun
    | some pair => exact pair_last pair

theorem slot_read (slot : Slot) : readSlot slot.text = slot.pair.map Pair.parts := by
  rw [readSlot, slot_trimmed]
  cases slot.pair with
  | none => rfl
  | some pair => exact Text.split_first_append '=' _ _ (token_lacks pair.name '=' rfl)

theorem slot_cut (slot : Slot) (pair : Pair) (front back : List Char) (given : slot.pair = some pair)
    (cut : slot.text = front ++ ',' :: back) : ∃ more, front = slot.before ++ (pair.name.text ++ '=' :: more) := by
  have named : slot.before ++ (pair.name.text ++ ['=']) <+: slot.text :=
    ⟨pair.value.text ++ slot.after, by simp [Slot.text, given, Pair.text]⟩
  have ahead : front ++ [','] <+: slot.text := ⟨back, by simp [cut]⟩
  have lacks : ',' ∉ slot.before ++ (pair.name.text ++ ['=']) := by
    simp only [List.mem_append, List.mem_singleton, not_or]
    refine ⟨fun member => ?_, token_lacks pair.name ',' rfl, by decide⟩
    exact absurd (slot.blank ',' (List.mem_append_left slot.after member)) (by decide)
  rcases List.prefix_or_prefix_of_prefix named ahead with short | long
  · rcases List.prefix_concat_iff.mp short with same | ⟨more, within⟩
    · exact absurd (same ▸ List.mem_append_right front List.mem_cons_self) lacks
    · exact ⟨more, by simpa using within.symm⟩
  · exact absurd (long.subset (List.mem_append_right front List.mem_cons_self)) lacks

theorem slot_cut_read (slot : Slot) (front back : List Char) (parts : List Char × List Char)
    (other : slot.proto? = none) (cut : slot.text = front ++ ',' :: back) (read : readSlot front = some parts) :
    isProto parts = false := by
  cases given : slot.pair with
  | none =>
      have blank : Text.isBlank ',' = true := by
        refine slot.blank ',' ?_
        have member : ',' ∈ slot.text := cut ▸ List.mem_append_right front List.mem_cons_self
        simpa [Slot.text, given] using member
      exact absurd blank (by decide)
  | some pair =>
      obtain ⟨more, rfl⟩ := slot_cut slot pair front back given cut
      have named : isProto pair.parts = false := by
        simpa [Slot.proto?, given, Option.filter_some] using other
      have first : ∀ c ∈ (pair.name.text ++ '=' :: more).head?, Text.isBlank c = false := by
        rw [List.head?_append, List.head?_eq_some_head (token_some pair.name), Option.some_or, ← List.head?_eq_some_head]
        exact fun c first => token_char_visible c (token_chars pair.name c (List.mem_of_head? first))
      rw [readSlot, Text.trimWhile, List.dropWhile_append_of_pos fun c member => slot.blank c (List.mem_append_left _ member),
        Text.drop_while_closed _ _ first, Text.drop_end_front _ _ _ _ rfl,
        Text.split_first_append '=' _ _ (token_lacks pair.name '=' rfl)] at read
      obtain rfl := Option.some.inj read
      exact named

def readElement (text : List Char) : List (List Char × List Char) :=
  (Text.split ';' (text.takeWhile (· ≠ ','))).filterMap readSlot

def unquoted (text : List Char) : String := String.ofList (Text.trimWhile (· = '"') text)

def protoOf (pairs : List (List Char × List Char)) : Option String := (pairs.find? isProto).map fun pair => unquoted pair.2

theorem forwarded_proto (value : String) : Target.forwardedProto? value = protoOf (readElement value.toList) := rfl

theorem proto_append (front back : List (List Char × List Char)) :
    protoOf (front ++ back) = (protoOf front).or (protoOf back) := by
  rw [protoOf, List.find?_append, Option.map_or]
  rfl

theorem proto_slot (slot : Slot) :
    protoOf (slot.pair.map Pair.parts).toList = slot.proto?.map fun value => unquoted value.text := by
  rw [Slot.proto?]
  cases slot.pair with
  | none => rfl
  | some pair =>
      rw [protoOf, Option.map_some, Option.filter_some, Option.toList_some, List.find?_singleton]
      split
      · rfl
      · rfl

theorem unseparated_lacks (text : List Char) (unseparated : text.any isSeparator = false) : ',' ∉ text ∧ ';' ∉ text := by
  rw [List.any_eq_false] at unseparated
  exact ⟨fun member => unseparated ',' member rfl, fun member => unseparated ';' member rfl⟩

theorem element_last (text rest : List Char) (unseparated : text.any isSeparator = false)
    (behind : rest = [] ∨ ∃ more, rest = ',' :: more) : readElement (text ++ rest) = (readSlot text).toList := by
  obtain ⟨comma, semicolon⟩ := unseparated_lacks text unseparated
  have taken : (text ++ rest).takeWhile (· ≠ ',') = text := by
    rcases behind with rfl | ⟨more, rfl⟩
    · rw [List.append_nil, Text.take_while_clean ',' text comma]
    · exact Text.take_while_before ',' text more comma
  rw [readElement, taken, Text.split_clean ';' text semicolon, List.filterMap_cons, List.filterMap_nil]
  cases readSlot text with
  | none => rfl
  | some parts => rfl

theorem element_more (text more : List Char) (unseparated : text.any isSeparator = false) :
    readElement (text ++ ';' :: more) = (readSlot text).toList ++ readElement more := by
  obtain ⟨comma, semicolon⟩ := unseparated_lacks text unseparated
  have inside : ∀ c ∈ text, decide (c ≠ ',') = true := fun c member => decide_eq_true fun same => comma (same ▸ member)
  rw [readElement, List.takeWhile_append_of_pos inside, List.takeWhile_cons, if_pos (by decide),
    Text.split_append ';' text _ semicolon, List.filterMap_cons]
  cases readSlot text with
  | none => rfl
  | some parts => rfl

theorem plain_quote (items : List Item) (plain : items.all Item.isPlain = true) :
    '"' ∉ items.flatMap Item.text ∧ items.flatMap Item.text = items.map Item.char := by
  induction items with
  | nil => exact ⟨List.not_mem_nil, rfl⟩
  | cons item rest ih =>
      rw [List.all_cons, Bool.and_eq_true] at plain
      obtain ⟨lacks, same⟩ := ih plain.2
      cases item with
      | escaped c valid => exact absurd plain.1 Bool.false_ne_true
      | plain c valid =>
          rw [List.flatMap_cons, List.map_cons, ← same]
          refine ⟨fun member => ?_, rfl⟩
          rcases List.mem_cons.mp member with quote | later
          · exact absurd valid (quote ▸ by decide)
          · exact lacks later

theorem value_unquoted (value : Value) (plain : value.isPlain = true) : unquoted value.text = String.ofList value.meaning := by
  have bare (text : List Char) (lacks : '"' ∉ text) (c : Char) (member : c ∈ text) : decide (c = '"') = false :=
    decide_eq_false fun same => lacks (same ▸ member)
  cases value with
  | token known =>
      rw [unquoted, Value.text, Text.trim_while_none _ _ (bare known.text (token_lacks known '"' rfl)), Value.meaning]
  | quoted items =>
      obtain ⟨lacks, same⟩ := plain_quote items plain
      have inside := bare _ lacks
      have trimmed : Text.trimWhile (· = '"') (['"'] ++ (items.flatMap Item.text ++ ['"'])) = items.flatMap Item.text :=
        Text.trim_while_between _ _ _ _ (by simp) (fun c first => inside c (List.mem_of_head? first))
          fun c last => inside c (List.mem_of_getLast? last)
      exact congrArg String.ofList (trimmed.trans same)

theorem slots_text (first next : Slot) (later : List Slot) (rest : List Char) :
    Text.join ';' ((first :: next :: later).map Slot.text) ++ rest =
      first.text ++ ';' :: (Text.join ';' ((next :: later).map Slot.text) ++ rest) := by
  simp [Text.join]

theorem slot_said (slot : Slot) (more : List (List Char × List Char)) :
    protoOf ((readSlot slot.text).toList ++ more) = (slot.proto?.map fun value => unquoted value.text).or (protoOf more) := by
  rw [proto_append, slot_read, proto_slot]

theorem slot_meaning (slot : Slot) (plain : ∀ value, slot.proto? = some value → value.isPlain = true) :
    (slot.proto?.map fun value => unquoted value.text) = slot.proto?.map fun value => String.ofList value.meaning := by
  cases said : slot.proto? with
  | none => rfl
  | some value => exact congrArg some (value_unquoted value (plain value said))

theorem legible_cons (slot : Slot) (others : List Slot) (legible : isLegible (slot :: others) = true) :
    slot.text.any isSeparator = false ∧ (∀ value, slot.proto? = some value → value.isPlain = true) ∧
      (slot.proto? = none → isLegible others = true) := by
  rw [isLegible, Bool.and_eq_true, Bool.not_eq_true'] at legible
  refine ⟨legible.1, fun value said => ?_, fun unsaid => ?_⟩
  · simpa only [said] using legible.2
  · simpa only [unsaid] using legible.2

-- By induction over the slots: one that does not say the scheme leaves it to those behind.
theorem legible_read (first : Slot) (others : List Slot) (rest : List Char) (behind : rest = [] ∨ ∃ more, rest = ',' :: more)
    (legible : isLegible (first :: others) = true) :
    protoOf (readElement (Text.join ';' ((first :: others).map Slot.text) ++ rest)) =
      ((first :: others).findSome? Slot.proto?).map fun value => String.ofList value.meaning := by
  induction others generalizing first with
  | nil =>
      obtain ⟨unseparated, plain, -⟩ := legible_cons first [] legible
      rw [List.map_singleton, Text.join, element_last first.text rest unseparated behind, ← List.append_nil (Option.toList _),
        slot_said, slot_meaning first plain, List.findSome?_cons]
      cases first.proto? with
      | none => rfl
      | some value => rfl
  | cons next later ih =>
      obtain ⟨unseparated, plain, onward⟩ := legible_cons first (next :: later) legible
      rw [slots_text, element_more first.text _ unseparated, slot_said, slot_meaning first plain, List.findSome?_cons]
      cases proto : first.proto? with
      | none => exact ih next (onward proto)
      | some value => rfl

theorem cut_here (slot : Slot) (rest : List Char) (other : slot.proto? = none)
    (comma : slot.text.find? isSeparator = some ',') : protoOf (readElement (slot.text ++ rest)) = none := by
  obtain ⟨-, front, back, cut, ahead⟩ := List.find?_eq_some_iff_append.mp comma
  have unseparated : front.any isSeparator = false :=
    List.any_eq_false.mpr fun c member => by simpa using ahead c member
  rw [cut, List.append_assoc, List.cons_append, element_last front _ unseparated (.inr ⟨_, rfl⟩)]
  cases read : readSlot front with
  | none => rfl
  | some parts =>
      have apart := slot_cut_read slot front back parts other cut read
      simp [protoOf, apart]

-- The comma ends the element, so what is behind it is read no more.
theorem cut_read (first : Slot) (others : List Slot) (rest : List Char) (cut : isCut (first :: others) = true) :
    protoOf (readElement (Text.join ';' ((first :: others).map Slot.text) ++ rest)) = none := by
  induction others generalizing first with
  | nil =>
      simp only [isCut, Bool.and_false, Bool.or_false, Bool.and_eq_true, Option.isNone_iff_eq_none, decide_eq_true_eq] at cut
      exact cut_here first rest cut.1 cut.2
  | cons next later ih =>
      rw [isCut, Bool.and_eq_true, Bool.or_eq_true, Option.isNone_iff_eq_none, decide_eq_true_eq, Bool.and_eq_true,
        Bool.not_eq_true'] at cut
      obtain ⟨other, here | ⟨unseparated, behind⟩⟩ := cut
      · rw [slots_text, cut_here first _ other here]
      · rw [slots_text, element_more first.text _ unseparated, slot_said, other, ih next behind]
        rfl

end Slots

section Fields

variable {headers : Headers}

def isReadable (field : Field) : Bool := Headers.isText (String.ofList field.text)

def firstItem (list : String) : List Char := Text.trimWhile Text.isBlank ((Text.split ',' list.toList).headD [])

def listed (headers : Headers) : List Char := ((headers.text? "x-forwarded-proto").map firstItem).getD []

def orHttp (text : List Char) : String := if text.isEmpty then "http" else String.ofList text

def scheme (said : Option Value) (item : List Char) : String :=
  match said with
  | some value => orHttp value.meaning
  | none => orHttp item

theorem field_text (field : Field) :
    ∃ rest, field.text = field.first.text ++ rest ∧ (rest = [] ∨ ∃ more, rest = ',' :: more) := by
  rw [Field.text, List.map_cons]
  cases field.others with
  | nil => exact ⟨[], (List.append_nil _).symm, .inl rfl⟩
  | cons next later => exact ⟨_, rfl, .inr ⟨_, rfl⟩⟩

theorem first_listed (list : String) : Target.firstListed list = String.ofList (firstItem list) := by
  have first := Text.split_take ',' list.toList
  rw [Target.firstListed, firstItem, List.headD_eq_head?_getD, first, Option.getD_some]

theorem is_empty (text : List Char) : (String.ofList text).isEmpty = text.isEmpty := by
  cases text with
  | nil => rfl
  | cons c rest => simp

theorem filter_or_http (text : List Char) :
    ((some (String.ofList text)).filter fun text => !text.isEmpty).getD "http" = orHttp text := by
  rw [Option.filter_some, is_empty, orHttp]
  cases text with
  | nil => rfl
  | cons c rest => rfl

theorem unsaid_scheme (unsaid : (headers.text? "forwarded").bind Target.forwardedProto? = none) :
    (Target.forwardedScheme? headers).getD "http" = orHttp (listed headers) := by
  simp only [Target.forwardedScheme?, unsaid, Option.none_or, listed]
  cases headers.text? "x-forwarded-proto" with
  | none => rfl
  | some list => rw [Option.map_some, first_listed, filter_or_http, Option.map_some, Option.getD_some]

theorem said_scheme (text : List Char)
    (said : (headers.text? "forwarded").bind Target.forwardedProto? = some (String.ofList text)) :
    (Target.forwardedScheme? headers).getD "http" = orHttp text := by
  simp only [Target.forwardedScheme?, said, Option.some_or, filter_or_http]

theorem field_proto (field : Field) (given : headers.get? "forwarded" = some (octets (String.ofList field.text))) :
    (headers.text? "forwarded").bind Target.forwardedProto? =
      if isReadable field then protoOf (readElement field.text) else none := by
  rw [Headers.text?, given, Option.bind_some, Headers.read_octets, isReadable]
  by_cases readable : Headers.isText (String.ofList field.text) = true
  · rw [if_pos readable, if_pos readable, Option.bind_some, forwarded_proto, String.toList_ofList]
  · rw [if_neg readable, if_neg readable, Option.bind_none]

theorem legible_scheme (field : Field) (given : headers.get? "forwarded" = some (octets (String.ofList field.text)))
    (readable : isReadable field = true) (legible : isLegible field.first.slots = true) :
    (Target.forwardedScheme? headers).getD "http" = scheme field.first.proto? (listed headers) := by
  have read : (headers.text? "forwarded").bind Target.forwardedProto? =
      field.first.proto?.map fun value => String.ofList value.meaning := by
    obtain ⟨rest, whole, behind⟩ := field_text field
    rw [field_proto field given, if_pos readable, whole]
    exact legible_read field.first.first field.first.others rest behind legible
  cases said : field.first.proto? with
  | none =>
      rw [said] at read
      exact unsaid_scheme read
  | some value =>
      rw [said] at read
      exact said_scheme value.meaning read

theorem hidden_scheme (field : Field) (given : headers.get? "forwarded" = some (octets (String.ofList field.text)))
    (hidden : isReadable field = false ∨ isCut field.first.slots = true) :
    (Target.forwardedScheme? headers).getD "http" = scheme none (listed headers) := by
  refine unsaid_scheme ?_
  rw [field_proto field given]
  rcases hidden with unreadable | cut
  · rw [unreadable, if_neg Bool.false_ne_true]
  · have nothing : protoOf (readElement field.text) = none := by
      obtain ⟨rest, whole, -⟩ := field_text field
      rw [whole]
      exact cut_read field.first.first field.first.others rest cut
    rw [nothing, ite_self]

theorem origin_url (place host : String) (uri : Uri) (isPlace : Uri.Place place.toList) (read : Uri.parse? place = some uri)
    (named : headers.text? "host" = some host) :
    Target.absoluteUrl uri headers = (Target.forwardedScheme? headers).getD "http" ++ "://" ++ host ++ place := by
  obtain ⟨-, -, rfl⟩ := (Uri.parse_place_iff isPlace uri).mp read
  obtain ⟨⟨rest, slash⟩, -⟩ := isPlace
  have some_ : place.isEmpty = false := by
    rw [String.isEmpty_eq_false_iff]
    rintro rfl
    exact absurd slash nofun
  simp [Target.absoluteUrl, Uri.pathAndQuery?, some_, named]

end Fields

-- The first hop's scheme is what the field says by its grammar, as long as quotes hide no separator.
-- A comma in quotes ahead of it, and a character that is no text, make the field say nothing.
theorem origin_scheme (place host : String) (uri : Uri) (headers : Headers) (field : Field)
    (isPlace : Uri.Place place.toList) (read : Uri.parse? place = some uri) (named : headers.text? "host" = some host)
    (given : headers.get? "forwarded" = some (octets (String.ofList field.text))) :
    (isReadable field = true → isLegible field.first.slots = true →
      Target.absoluteUrl uri headers = scheme field.first.proto? (listed headers) ++ "://" ++ host ++ place) ∧
    (isReadable field = false ∨ isCut field.first.slots = true →
      Target.absoluteUrl uri headers = scheme none (listed headers) ++ "://" ++ host ++ place) := by
  rw [origin_url place host uri isPlace read named]
  constructor
  · intro readable legible
    rw [legible_scheme field given readable legible]
  · intro hidden
    rw [hidden_scheme field given hidden]

def gateway : Field where
  first := {
    first := .bare ⟨⟨"for", rfl⟩, .quoted [.plain '[' rfl, .plain ':' rfl, .plain ':' rfl, .plain '1' rfl, .plain ']' rfl]⟩
    others := [⟨[' '], some ⟨⟨"Proto", rfl⟩, .quoted [.plain 'w' rfl, .plain 's' rfl, .plain 's' rfl]⟩, ['\t'], by
      simp [Text.isBlank]⟩] }
  others := [⟨.bare ⟨⟨"proto", rfl⟩, .token ⟨"http", rfl⟩⟩, []⟩]

def annotated : Field where
  first := {
    first := .bare ⟨⟨"note", rfl⟩, .quoted [.plain 'a' rfl, .plain ',' rfl, .plain 'b' rfl]⟩
    others := [.bare ⟨⟨"proto", rfl⟩, .token ⟨"https", rfl⟩⟩] }
  others := []

theorem origin_scheme_gateway :
    (String.ofList gateway.text = "for=\"[::1]\"; Proto=\"wss\"\t,proto=http" ∧
      Target.absoluteUrl ⟨none, none, "/pay"⟩ (.ofTexts [("host", "shop.example.com"),
        ("forwarded", "for=\"[::1]\"; Proto=\"wss\"\t,proto=http"), ("x-forwarded-proto", "https")]) =
        "wss://shop.example.com/pay") ∧
    (String.ofList annotated.text = "note=\"a,b\";proto=https" ∧
      Target.absoluteUrl ⟨none, none, "/pay"⟩ (.ofTexts [("host", "shop.example.com"),
        ("forwarded", "note=\"a,b\";proto=https"), ("x-forwarded-proto", " ws , http")]) = "ws://shop.example.com/pay") := by
  have isPlace : Uri.Place "/pay".toList := ⟨⟨_, rfl⟩, by decide⟩
  refine ⟨⟨rfl, ?_⟩, rfl, ?_⟩
  · exact (origin_scheme "/pay" "shop.example.com" _ _ gateway isPlace rfl rfl rfl).1 rfl rfl
  · exact (origin_scheme "/pay" "shop.example.com" _ _ annotated isPlace rfl rfl rfl).2 (.inr rfl)

theorem quoted_comma_hides_scheme :
    let headers := Headers.ofTexts [("host", "shop.example.com"), ("forwarded", "note=\"a,b\";proto=https")]
    let uri : Uri := ⟨none, none, "/pay?x=1"⟩
    Uri.parse? "/pay?x=1" = some uri ∧ headers.get? "forwarded" = some (octets (String.ofList annotated.text)) ∧
      scheme annotated.first.proto? (listed headers) = "https" ∧
      Target.absoluteUrl uri headers = "http://shop.example.com/pay?x=1" :=
  ⟨rfl, rfl, rfl, rfl⟩

end RequestSpans.Forwarded
