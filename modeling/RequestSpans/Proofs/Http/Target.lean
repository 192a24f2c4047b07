import RequestSpans.Proofs.Http.Forwarded
import RequestSpans.Proofs.Trace.State

set_option autoImplicit false

namespace RequestSpans.Target

open Uri (Host Port Place Carried url)

inductive Reports (headers : Headers) (scheme : String) : Prop
  | forwarded (field : Forwarded.Field) (given : headers.get? "forwarded" = some (octets (String.ofList field.text)))
      (readable : Forwarded.isReadable field = true) (legible : Forwarded.isLegible field.first.slots = true)
      (said : field.first.proto?.map Forwarded.Value.meaning = some scheme.toList)
  | unsaid (plain : scheme = "http") (no_field : headers.get? "forwarded" = none)
      (no_list : headers.get? "x-forwarded-proto" = none)

section Address

variable {host portText : List Char} {port : Option Nat}

theorem name_colon (text : List Char) (chars : ∀ c ∈ text, Uri.isHostChar c = true) : ':' ∉ text :=
  fun member => Uri.host_char_apart ':' (chars ':' member) ':' rfl rfl

theorem literal_end (text before after : List Char) (cut : '[' :: (text ++ [']']) = before ++ ':' :: after) :
    ']' ∈ after := by
  have last := congrArg List.getLast? cut
  rw [← List.cons_append, List.getLast?_concat, List.getLast?_append] at last
  cases after with
  | nil => simp at last
  | cons c rest => exact List.mem_of_getLast? (by simpa using last.symm)

theorem address_end (form : Host host) (given : Port port portText) :
    (':' ∉ host ++ portText ∧ portText = [] ∧ port = none) ∨
      ∃ before after, host ++ portText = before ++ ':' :: after ∧ ':' ∉ after ∧
        Text.unsigned? 10 65535 after = port ∧ (port = none → portText = []) ∧ (port ≠ none → before = host) := by
  cases given with
  | given zeros number low =>
      have clean : ':' ∉ Text.decimal zeros number :=
        fun member => absurd (Text.decimal_digit zeros number ':' member) (by decide)
      exact .inr ⟨host, _, rfl, clean, Text.unsigned_decimal 65535 zeros number low, nofun, fun _ => rfl⟩
  | absent =>
      rw [List.append_nil]
      cases form with
      | name text some_ chars => exact .inl ⟨name_colon host chars, rfl, rfl⟩
      | literal text chars =>
          by_cases colon : ':' ∈ '[' :: (text ++ [']'])
          · obtain ⟨before, after, cut, clean⟩ := Text.last_cut ':' _ colon
            have closed := literal_end text before after cut
            have number := Text.unsigned_none 10 65535 after ']' closed (by decide) (by decide)
            exact .inr ⟨before, after, cut, clean, number, fun _ => rfl, fun some_ => absurd rfl some_⟩
          · exact .inl ⟨colon, rfl, rfl⟩

theorem literal_closed (text : List Char) (chars : ∀ c ∈ text, Uri.isHostChar c = true ∨ c = ':') : ']' ∉ text := by
  intro member
  rcases chars ']' member with valid | colon
  · exact Uri.host_char_apart ']' valid ']' rfl rfl
  · contradiction

theorem host_before (form : Host host) (given : Port port portText) :
    (match host ++ portText with
      | '[' :: _ => String.ofList ((host ++ portText).takeWhile (· ≠ ']') ++ [']'])
      | _ => String.ofList ((host ++ portText).takeWhile (· ≠ ':'))) = String.ofList host := by
  cases form with
  | literal text chars =>
      have inside : ']' ∉ '[' :: text := by
        simpa using literal_closed text chars
      have taken := Text.take_while_before ']' ('[' :: text) portText inside
      have whole : '[' :: (text ++ [']']) ++ portText = '[' :: text ++ ']' :: portText := by simp
      rw [whole]
      simp only [List.cons_append] at taken ⊢
      rw [taken]
      rfl
  | name text some_ chars =>
      have clean := name_colon host chars
      have taken : (host ++ portText).takeWhile (· ≠ ':') = host := by
        cases given with
        | absent => rw [List.append_nil, Text.take_while_clean ':' host clean]
        | given zeros number low => exact Text.take_while_before ':' host _ clean
      rw [taken]
      split
      · rename_i rest opened
        obtain ⟨c, others, rfl⟩ := List.exists_cons_of_ne_nil some_
        obtain ⟨rfl, -⟩ := List.cons.inj opened
        exact absurd (chars '[' List.mem_cons_self) (by decide)
      · rfl

end Address

section Forms

variable {scheme host portText place : String} {port : Option Nat}

theorem host_absolute (form : Host host.toList) (given : Port port portText.toList) :
    Uri.host? ⟨some scheme, some (host ++ portText), place⟩ = some host := by
  have userless : '@' ∉ (host.toList ++ portText.toList).reverse := by
    rw [List.mem_reverse]
    exact Uri.address_lacks form given '@' rfl (by decide)
  have whole : ((host.toList ++ portText.toList).reverse.takeWhile (· ≠ '@')).reverse = host.toList ++ portText.toList := by
    rw [Text.take_while_clean '@' _ userless, List.reverse_reverse]
  rw [Uri.host?, Option.map_some, String.toList_append, whole]
  exact congrArg some ((host_before form given).trans String.ofList_toList)

theorem port_absolute (form : Host host.toList) (given : Port port portText.toList) :
    Uri.port? ⟨some scheme, some (host ++ portText), place⟩ = port := by
  rw [Uri.port?, Option.bind_some, String.toList_append]
  rcases address_end form given with ⟨bare, -, none_⟩ | ⟨before, after, cut, clean, number, -, -⟩
  · have bare_reverse : (host.toList ++ portText.toList).reverse.contains ':' = false := by
      rw [List.contains_eq_mem, decide_eq_false_iff_not, List.mem_reverse]
      exact bare
    simp only [bare_reverse, none_, Bool.false_eq_true, if_false]
  · have colon : (before ++ ':' :: after).reverse.contains ':' = true := by
      rw [List.contains_eq_mem, decide_eq_true_eq, List.mem_reverse]
      exact List.mem_append_right before List.mem_cons_self
    simp only [cut, colon, if_true, Text.take_last ':' before after clean, number]

theorem query_sign (target rest : List Char) (c : Char) (left : target.dropWhile (· ≠ '?') = c :: rest) : c = '?' := by
  have sign := List.head?_dropWhile_not (fun c => decide (c ≠ '?')) target
  rw [left] at sign
  simpa using sign

theorem render_absolute (isPlace : Place place.toList) :
    Uri.render ⟨some scheme, some (host ++ portText), place⟩ = url scheme host portText place := by
  obtain ⟨⟨rest, slash⟩, -⟩ := isPlace
  have some_ : (place.toList.takeWhile (· ≠ '?')).isEmpty = false := by simp [slash]
  have path : Uri.path ⟨some scheme, some (host ++ portText), place⟩ = String.ofList (place.toList.takeWhile (· ≠ '?')) := by
    simp only [Uri.path, some_, Bool.not_false, if_true]
  have parts : String.ofList (place.toList.takeWhile (· ≠ '?')) ++ String.ofList (place.toList.dropWhile (· ≠ '?')) = place := by
    rw [← String.ofList_append, List.takeWhile_append_dropWhile, String.ofList_toList]
  have query : ((Uri.query? ⟨some scheme, some (host ++ portText), place⟩).map ("?" ++ ·)).getD "" =
      String.ofList (place.toList.dropWhile (· ≠ '?')) := by
    cases left : place.toList.dropWhile (· ≠ '?') with
    | nil =>
        simp only [Uri.query?, left]
        rfl
    | cons c query =>
        obtain rfl := query_sign _ _ _ left
        simp only [Uri.query?, left, Option.map_some, Option.getD_some]
        exact String.ofList_append.symm
  rw [Uri.render, path, query, String.append_assoc, parts]
  simp only [url, Option.map_some, Option.getD_some, String.append_assoc]

theorem authority_absolute (form : Host host.toList) (given : Port port portText.toList) (headers : Headers) :
    authority? ⟨some scheme, some (host ++ portText), place⟩ headers = some (host, port) := by
  simp only [authority?, host_absolute form given, port_absolute form given]

theorem alphanum_plain (c : Char) (valid : c.isAlphanum = true) : Headers.Plain c := by
  have ranges : ((decide ('A' ≤ c ∧ c ≤ 'Z') || (decide ('a' ≤ c) && decide (c ≤ 'z'))) ||
      (decide ('0' ≤ c) && decide (c ≤ '9'))) = true := valid
  simp only [Bool.or_eq_true, Bool.and_eq_true, decide_eq_true_eq] at ranges
  rcases ranges with (capital | small) | digit
  · exact Headers.plain_between c 'A' 'Z' (by decide) (by decide) capital.1 capital.2
  · exact Headers.plain_between c 'a' 'z' (by decide) (by decide) small.1 small.2
  · exact Headers.plain_between c '0' '9' (by decide) (by decide) digit.1 digit.2

theorem host_char_plain (c : Char) (valid : Uri.isHostChar c = true) : Headers.Plain c := by
  simp only [Uri.isHostChar, Uri.isAuthorityChar, Bool.or_eq_true, decide_eq_true_eq] at valid
  rcases valid with (letter | sign) | rfl
  · exact alphanum_plain c letter
  · have plain : ("!$&'()*+,-.;=_~".toList.all fun c => ' ' ≤ c && c ≤ '~') = true := by decide
    exact .inr (by simpa using List.all_eq_true.mp plain c (List.contains_iff_mem.mp sign))
  · exact .inr (by decide)

theorem address_text (form : Host host.toList) (given : Port port portText.toList) :
    Headers.isText (host ++ portText) = true := by
  rw [Headers.is_text_iff, String.toList_append]
  intro c member
  rcases List.mem_append.mp member with front | back
  · rcases Uri.host_chars form c front with valid | rfl | rfl | rfl
    · exact host_char_plain c valid
    · exact .inr (by decide)
    · exact .inr (by decide)
    · exact .inr (by decide)
  · rcases Uri.port_host_chars given c back with valid | rfl
    · exact host_char_plain c valid
    · exact .inr (by decide)

variable {headers : Headers}

theorem host_text (form : Host host.toList) (given : Port port portText.toList)
    (named : headers.get? "host" = some (octets (host ++ portText))) : headers.text? "host" = some (host ++ portText) := by
  rw [Headers.text?, named, Option.bind_some, Headers.read_octets, if_pos (address_text form given)]

theorem authority_origin (form : Host host.toList) (given : Port port portText.toList)
    (named : headers.get? "host" = some (octets (host ++ portText))) :
    authority? ⟨none, none, place⟩ headers = some (host, port) := by
  have no_host : Uri.host? ⟨none, none, place⟩ = none := rfl
  simp only [authority?, no_host, host_text form given named, Option.map_some, String.toList_append]
  rcases address_end form given with ⟨bare, empty, none_⟩ | ⟨before, after, cut, clean, number, whole, front⟩
  · have whole : host ++ portText = host := by rw [String.toList_eq_nil_iff.mp empty, String.append_empty]
    simp only [Text.split_last_none ':' _ bare, whole, none_]
  · simp only [cut, Text.split_last_append ':' before after clean, number]
    cases port with
    | none =>
        have whole : host ++ portText = host := by rw [String.toList_eq_nil_iff.mp (whole rfl), String.append_empty]
        simp only [whole]
    | some number => simp only [front nofun, String.ofList_toList]

theorem reported_scheme (known : scheme = "http" ∨ scheme = "https") (reported : Reports headers scheme) :
    (forwardedScheme? headers).getD "http" = scheme := by
  cases reported with
  | forwarded field given readable legible said =>
      rw [Forwarded.legible_scheme field given readable legible]
      obtain ⟨value, proto, meaning⟩ := Option.map_eq_some_iff.mp said
      have some_ : scheme.toList.isEmpty = false := by
        rcases known with rfl | rfl
        · rfl
        · rfl
      simp only [proto, Forwarded.scheme, Forwarded.orHttp, meaning, some_, Bool.false_eq_true, if_false, String.ofList_toList]
  | unsaid plain no_field no_list =>
      simp only [forwardedScheme?, Headers.text?, no_field, no_list, plain]
      rfl

theorem url_origin (known : scheme = "http" ∨ scheme = "https") (form : Host host.toList)
    (given : Port port portText.toList) (isPlace : Place place.toList) (uri : Uri) (read : Uri.parse? place = some uri)
    (named : headers.get? "host" = some (octets (host ++ portText))) (reported : Reports headers scheme) :
    absoluteUrl uri headers = url scheme host portText place := by
  rw [Forwarded.origin_url place (host ++ portText) uri isPlace read (host_text form given named),
    reported_scheme known reported, url, ← String.append_assoc]

end Forms

-- The absolute form is there for all places that the origin form is there for, and for
-- all hosts that it can carry.
theorem forms_agree (scheme host : String) (port : Option Nat) (portText place : String)
    (known : scheme = "http" ∨ scheme = "https") (form : Host host.toList) (given : Port port portText.toList)
    (isPlace : Place place.toList) :
    ((∃ absolute, Uri.parse? (url scheme host portText place) = some absolute) ↔
      (∃ origin, Uri.parse? place = some origin) ∧ Carried host.toList ∧
        (url scheme host portText place).utf8ByteSize ≤ 65534) ∧
    ∀ origin absolute, Uri.parse? place = some origin → Uri.parse? (url scheme host portText place) = some absolute →
      ∀ headers others : Headers, headers.get? "host" = some (octets (host ++ portText)) → Reports headers scheme →
        absoluteUrl origin headers = url scheme host portText place ∧
        absoluteUrl absolute others = url scheme host portText place ∧
        authority? origin headers = some (host, port) ∧ authority? absolute others = some (host, port) := by
  constructor
  · have shorter : place.utf8ByteSize ≤ (url scheme host portText place).utf8ByteSize := by
      rw [url, String.utf8ByteSize_append]
      exact Nat.le_add_left _ _
    simp only [Uri.parse_url_iff scheme known form given isPlace, Uri.parse_place_iff isPlace, ← and_assoc,
      exists_eq_right]
    constructor
    · rintro ⟨⟨short, carried⟩, read⟩
      exact ⟨⟨⟨Nat.le_trans shorter short, read⟩, carried⟩, short⟩
    · rintro ⟨⟨⟨-, read⟩, carried⟩, short⟩
      exact ⟨⟨short, carried⟩, read⟩
  · intro origin absolute readOrigin readAbsolute headers others named reported
    have completed := url_origin known form given isPlace origin readOrigin named reported
    obtain ⟨-, -, rfl⟩ := (Uri.parse_place_iff isPlace origin).mp readOrigin
    obtain ⟨-, -, -, rfl⟩ := (Uri.parse_url_iff scheme known form given isPlace absolute).mp readAbsolute
    refine ⟨completed, ?_, authority_origin form given named,
      authority_absolute form given others⟩
    simp only [absoluteUrl, Option.isSome_some, if_true, render_absolute isPlace]

theorem forms_agree_literal :
    let headers := Headers.ofTexts [("host", "[2001:db8::7]:8443"), ("forwarded", "proto=https")]
    let origin : Uri := ⟨none, none, "/pay?x=1"⟩
    let absolute : Uri := ⟨some "https", some "[2001:db8::7]:8443", "/pay?x=1"⟩
    Uri.parse? "/pay?x=1" = some origin ∧ Uri.parse? "https://[2001:db8::7]:8443/pay?x=1" = some absolute ∧
      absoluteUrl origin headers = "https://[2001:db8::7]:8443/pay?x=1" ∧
      absoluteUrl absolute .empty = "https://[2001:db8::7]:8443/pay?x=1" ∧
      authority? origin headers = some ("[2001:db8::7]", some 8443) ∧
      authority? absolute .empty = some ("[2001:db8::7]", some 8443) := by
  have form : Host "[2001:db8::7]".toList := .literal "2001:db8::7".toList (by
    have chars : ("2001:db8::7".toList.all fun c => Uri.isHostChar c || c = ':') = true := by decide
    intro c member
    simpa using List.all_eq_true.mp chars c member)
  have given : Port (some 8443) ":8443".toList := .given 0 8443 (by decide)
  have isPlace : Place "/pay?x=1".toList := ⟨⟨_, rfl⟩, by decide⟩
  have agree := (forms_agree "https" "[2001:db8::7]" (some 8443) ":8443" "/pay?x=1" (.inr rfl) form given isPlace).2
  refine ⟨rfl, rfl, ?_⟩
  have reported : Reports (.ofTexts [("host", "[2001:db8::7]:8443"), ("forwarded", "proto=https")]) "https" :=
    .forwarded ⟨⟨.bare ⟨⟨"proto", rfl⟩, .token ⟨"https", rfl⟩⟩, []⟩, []⟩ rfl rfl rfl rfl
  exact agree ⟨none, none, "/pay?x=1"⟩ ⟨some "https", some "[2001:db8::7]:8443", "/pay?x=1"⟩ rfl rfl _ .empty rfl reported

end RequestSpans.Target
