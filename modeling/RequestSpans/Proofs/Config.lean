import RequestSpans.Config.Decode

set_option autoImplicit false

namespace RequestSpans.TracingConfig

-- A field of a record: under which key it is written, as what, and whether it may
-- be left out.
structure Entry where
  key : String
  writes : Json → Prop
  isDefault : Prop

inductive Given : List Entry → List (String × Json) → Prop
  | nothing : Given [] []
  | written (entry : Entry) (rest : List Entry) (value : Json) (members : List (String × Json))
      (writes : entry.writes value) (others : Given rest members) :
      Given (entry :: rest) ((entry.key, value) :: members)
  | omitted (entry : Entry) (rest : List Entry) (members : List (String × Json)) (default : entry.isDefault)
      (others : Given rest members) : Given (entry :: rest) members

inductive Listed : List Entry → List Json → Prop
  | ended (entries : List Entry) (default : ∀ entry ∈ entries, entry.isDefault) : Listed entries []
  | written (entry : Entry) (rest : List Entry) (value : Json) (items : List Json) (writes : entry.writes value)
      (others : Listed rest items) : Listed (entry :: rest) (value :: items)

inductive Written (entries : List Entry) : Json → Prop
  | object (given extra members : List (String × Json)) (known : Given entries given)
      (unknown : ∀ member ∈ extra, member.1 ∉ entries.map (·.key)) (order : members.Perm (given ++ extra)) :
      Written entries (.object members)
  | array (items : List Json) (listed : Listed entries items) : Written entries (.array items)

inductive WritesPatterns : List String → Json → Prop
  | list (patterns : List String) : WritesPatterns patterns (.array (patterns.map .text))
  | single (pattern : String) : WritesPatterns [pattern] (.text pattern)

section Fields

variable (key : String)

def flagEntry (standard value : Bool) : Entry := ⟨key, (· = .bool value), value = standard⟩

def textEntry (standard value : String) : Entry := ⟨key, (· = .text value), value = standard⟩

def textsEntry (standard values : List String) : Entry := ⟨key, (· = .array (values.map .text)), values = standard⟩

def patternsEntry (standard values : List String) : Entry := ⟨key, WritesPatterns values, values = standard⟩

def sideEntries (standard value : SideConfig) : List Entry :=
  [flagEntry "enabled" standard.enabled value.enabled, textEntry "component-name" standard.component value.component]

def sideEntry (standard value : SideConfig) : Entry := ⟨key, Written (sideEntries standard value), value = standard⟩

end Fields

def entries (config : TracingConfig) : List Entry :=
  [flagEntry "enabled" default.enabled config.enabled,
    patternsEntry "skip-pattern" default.skipPatterns config.skipPatterns,
    flagEntry "ignore-default-skip-patterns" default.ignoreDefaultSkipPatterns config.ignoreDefaultSkipPatterns,
    textsEntry "url-patterns" default.urlPatterns config.urlPatterns,
    sideEntry "server" default.server config.server,
    sideEntry "client" default.client config.client]

structure Reads {α : Type} (entry : Entry) (decode : Decoder α) (standard value : α) : Prop where
  written : ∀ json, entry.writes json → decode json = .ok value
  omitted : entry.isDefault → standard = value

section Records

variable {entries : List Entry} {given extra members : List (String × Json)} {items : List Json}

def under (members : List (String × Json)) (key : String) : List (String × Json) :=
  members.filter fun member => member.1 = key

-- A field is among the members once, as it may be written, or not at all.
def Tells (members : List (String × Json)) (entry : Entry) : Prop :=
  (∃ value, under members entry.key = [(entry.key, value)] ∧ entry.writes value) ∨
    under members entry.key = [] ∧ entry.isDefault

theorem given_key (known : Given entries given) (key : String) (outside : key ∉ entries.map (·.key)) :
    under given key = [] := by
  induction known with
  | nothing => rfl
  | written entry rest value members _ _ ih =>
      rw [List.map_cons, List.mem_cons, not_or] at outside
      rw [under, List.filter_cons, if_neg (by simpa using Ne.symm outside.1)]
      exact ih outside.2
  | omitted entry rest members _ _ ih =>
      rw [List.map_cons, List.mem_cons, not_or] at outside
      exact ih outside.2

theorem given_under (known : Given entries given) (distinct : (entries.map (·.key)).Nodup) (entry : Entry)
    (member : entry ∈ entries) : Tells given entry := by
  induction known with
  | nothing => exact absurd member List.not_mem_nil
  | written first rest value members writes others ih =>
      obtain ⟨fresh, distinct⟩ := List.nodup_cons.mp distinct
      rcases List.mem_cons.mp member with rfl | later
      · refine .inl ⟨value, ?_, writes⟩
        rw [under, List.filter_cons, if_pos (by simp)]
        exact congrArg _ (given_key others entry.key fresh)
      · have different : first.key ≠ entry.key := fun same => fresh (List.mem_map.mpr ⟨entry, later, same.symm⟩)
        have skipped : under ((first.key, value) :: members) entry.key = under members entry.key := by
          rw [under, List.filter_cons, if_neg (by simpa using different), under]
        rw [Tells, skipped]
        exact ih distinct later
  | omitted first rest members default others ih =>
      obtain ⟨fresh, distinct⟩ := List.nodup_cons.mp distinct
      rcases List.mem_cons.mp member with rfl | later
      · exact .inr ⟨given_key others entry.key fresh, default⟩
      · exact ih distinct later

theorem under_unknown (unknown : ∀ member ∈ extra, member.1 ∉ entries.map (·.key)) (entry : Entry)
    (known : entry ∈ entries) : under extra entry.key = [] := by
  rw [under, List.filter_eq_nil_iff]
  intro member inside same
  exact unknown member inside (of_decide_eq_true same ▸ List.mem_map_of_mem known)

theorem object_under (known : Given entries given) (unknown : ∀ member ∈ extra, member.1 ∉ entries.map (·.key))
    (order : members.Perm (given ++ extra)) (distinct : (entries.map (·.key)).Nodup) (index : Nat)
    {entry : Entry} (place : entries[index]? = some entry) : Tells members entry := by
  have member := List.mem_of_getElem? place
  have same : (under members entry.key).Perm (under given entry.key) := by
    have filtered := order.filter fun member => member.1 = entry.key
    rwa [List.filter_append, ← under, ← under, ← under, under_unknown unknown entry member, List.append_nil] at filtered
  rcases given_under known distinct entry member with ⟨value, single, writes⟩ | ⟨none_, default⟩
  · rw [single] at same
    exact .inl ⟨value, List.perm_singleton.mp same, writes⟩
  · rw [none_] at same
    exact .inr ⟨List.perm_nil.mp same, default⟩

theorem tells_writes {entry : Entry} (told : Tells members entry) (value : Json) (member : (entry.key, value) ∈ members) :
    entry.writes value := by
  have among : (entry.key, value) ∈ under members entry.key := List.mem_filter.mpr ⟨member, decide_eq_true rfl⟩
  rcases told with ⟨written, single, writes⟩ | ⟨none_, -⟩
  · rw [single, List.mem_singleton] at among
    obtain ⟨-, rfl⟩ := Prod.mk.inj among
    exact writes
  · rw [none_] at among
    exact absurd among List.not_mem_nil

theorem tells_once {entry : Entry} (told : Tells members entry) : (under members entry.key).length ≤ 1 := by
  rcases told with ⟨written, single, -⟩ | ⟨none_, -⟩
  · rw [single]
    exact Nat.le_refl 1
  · rw [none_]
    exact Nat.zero_le 1

theorem member_under (members : List (String × Json)) (key : String) :
    Json.member? members key = ((under members key).getLast?).map (·.2) := by
  rw [Json.member?, ← List.head?_filter, List.filter_reverse, List.head?_reverse, under]

theorem listed_element (listed : Listed entries items) (index : Nat) (entry : Entry) (place : entries[index]? = some entry) :
    (∃ value, items[index]? = some value ∧ entry.writes value) ∨ items[index]? = none ∧ entry.isDefault := by
  induction listed generalizing index with
  | ended entries default => exact .inr ⟨rfl, default entry (List.mem_of_getElem? place)⟩
  | written first rest value items writes others ih =>
      cases index with
      | zero =>
          obtain rfl := Option.some.inj place
          exact .inl ⟨value, rfl, writes⟩
      | succ index => exact ih index place

theorem listed_writes (listed : Listed entries items) (index : Nat) {entry : Entry} (place : entries[index]? = some entry)
    (value : Json) (found : items[index]? = some value) : entry.writes value := by
  rcases listed_element listed index entry place with ⟨written, same, writes⟩ | ⟨none_, -⟩
  · exact Option.some.inj (same.symm.trans found) ▸ writes
  · exact absurd (none_.symm.trans found) nofun

theorem listed_length (listed : Listed entries items) : items.length ≤ entries.length := by
  induction listed with
  | ended entries default => exact Nat.zero_le _
  | written first rest value items writes others ih => exact Nat.succ_le_succ ih

theorem written_distinct (distinct : (entries.map (·.key)).Nodup) (json : Json) (written : Written entries json) :
    distinctKeys (entries.map (·.key)) json = true := by
  cases written with
  | object given extra members known unknown order =>
      rw [distinctKeys, List.all_eq_true]
      intro key inside
      obtain ⟨entry, member, rfl⟩ := List.mem_map.mp inside
      obtain ⟨index, place⟩ := List.mem_iff_getElem?.mp member
      exact decide_eq_true (tells_once (object_under known unknown order distinct index place))
  | array items listed => rfl

variable {α : Type} {decode : Decoder α} {standard value : α} {entry : Entry}

theorem member_read (reads : Reads entry decode standard value)
    (told : Tells members entry) : member members entry.key decode standard = .ok value := by
  rw [member, member_under]
  rcases told with ⟨json, single, writes⟩ | ⟨none_, default⟩
  · rw [single]
    exact reads.written json writes
  · rw [none_]
    exact congrArg Except.ok (reads.omitted default)

theorem element_read (reads : Reads entry decode standard value) (listed : Listed entries items) (index : Nat)
    (place : entries[index]? = some entry) : element items index decode standard = .ok value := by
  rw [element]
  rcases listed_element listed index entry place with ⟨json, found, writes⟩ | ⟨none_, default⟩
  · rw [found]
    exact reads.written json writes
  · rw [none_]
    exact congrArg Except.ok (reads.omitted default)

end Records

section Decoders

variable (key : String)

theorem flag_reads (standard value : Bool) : Reads (flagEntry key standard value) flag standard value :=
  ⟨fun _ same => same ▸ rfl, Eq.symm⟩

theorem text_reads (standard value : String) : Reads (textEntry key standard value) text standard value :=
  ⟨fun _ same => same ▸ rfl, Eq.symm⟩

theorem texts_decode (values : List String) : (values.map Json.text).mapM text = .ok values := by
  induction values with
  | nil => rfl
  | cons value rest ih =>
      rw [List.map_cons, List.mapM_cons, ih]
      rfl

theorem texts_reads (standard values : List String) : Reads (textsEntry key standard values) texts standard values :=
  ⟨fun _ same => same ▸ texts_decode values, Eq.symm⟩

theorem patterns_reads (standard values : List String) :
    Reads (patternsEntry key standard values) patterns standard values := by
  refine ⟨fun json writes => ?_, Eq.symm⟩
  cases writes with
  | list => simp only [patterns, texts_decode]
  | single pattern => rfl

theorem side_keys_distinct (standard value : SideConfig) : ((sideEntries standard value).map (·.key)).Nodup :=
  (by decide : sideKeys.Nodup)

theorem side_decodes (name : String) (standard value : SideConfig) (json : Json)
    (written : Written (sideEntries standard value) json) : side name standard json = .ok value := by
  cases written with
  | object given extra members known unknown order =>
      have told := object_under known unknown order (side_keys_distinct standard value)
      have component : member members "component-name" text standard.component = .ok value.component :=
        member_read (text_reads _ _ _) (told 1 rfl)
      have enabled : member members "enabled" flag standard.enabled = .ok value.enabled :=
        member_read (flag_reads _ _ _) (told 0 rfl)
      simp only [side, component, enabled]
      rfl
  | array items listed =>
      have enabled : element items 0 flag standard.enabled = .ok value.enabled :=
        element_read (flag_reads _ _ _) listed 0 rfl
      have component : element items 1 text standard.component = .ok value.component :=
        element_read (text_reads _ _ _) listed 1 rfl
      have short : ¬2 < items.length := Nat.not_lt.mpr (listed_length listed)
      simp only [side, enabled, component, atMost, if_neg short]
      rfl

theorem side_reads (name : String) (standard value : SideConfig) :
    Reads (sideEntry key standard value) (side name standard) standard value :=
  ⟨side_decodes name standard value, Eq.symm⟩

end Decoders

section Whole

variable (config : TracingConfig) (json : Json)

theorem keys_distinct : ((entries config).map (·.key)).Nodup := (by decide : keys.Nodup)

theorem config_decodes (written : Written (entries config) json) : decode json = .ok config := by
  cases written with
  | object given extra members known unknown order =>
      have told := object_under known unknown order config.keys_distinct
      have client : member members "client" clientSide default.client = .ok config.client :=
        member_read (side_reads _ _ _ _) (told 5 rfl)
      have enabled : member members "enabled" flag default.enabled = .ok config.enabled :=
        member_read (flag_reads _ _ _) (told 0 rfl)
      have ignoreDefaults : member members "ignore-default-skip-patterns" flag default.ignoreDefaultSkipPatterns =
          .ok config.ignoreDefaultSkipPatterns := member_read (flag_reads _ _ _) (told 2 rfl)
      have server : member members "server" serverSide default.server = .ok config.server :=
        member_read (side_reads _ _ _ _) (told 4 rfl)
      have skipPatterns : member members "skip-pattern" patterns default.skipPatterns = .ok config.skipPatterns :=
        member_read (patterns_reads _ _ _) (told 1 rfl)
      have urlPatterns : member members "url-patterns" texts default.urlPatterns = .ok config.urlPatterns :=
        member_read (texts_reads _ _ _) (told 3 rfl)
      simp only [decode, client, enabled, ignoreDefaults, server, skipPatterns, urlPatterns]
      rfl
  | array items listed =>
      have enabled : element items 0 flag default.enabled = .ok config.enabled :=
        element_read (flag_reads _ _ _) listed 0 rfl
      have skipPatterns : element items 1 patterns default.skipPatterns = .ok config.skipPatterns :=
        element_read (patterns_reads _ _ _) listed 1 rfl
      have ignoreDefaults : element items 2 flag default.ignoreDefaultSkipPatterns = .ok config.ignoreDefaultSkipPatterns :=
        element_read (flag_reads _ _ _) listed 2 rfl
      have urlPatterns : element items 3 texts default.urlPatterns = .ok config.urlPatterns :=
        element_read (texts_reads _ _ _) listed 3 rfl
      have server : element items 4 serverSide default.server = .ok config.server :=
        element_read (side_reads _ _ _ _) listed 4 rfl
      have client : element items 5 clientSide default.client = .ok config.client :=
        element_read (side_reads _ _ _ _) listed 5 rfl
      have short : ¬6 < items.length := Nat.not_lt.mpr (listed_length listed)
      simp only [decode, enabled, skipPatterns, ignoreDefaults, urlPatterns, server, client, atMost, if_neg short]
      rfl

theorem side_distinct (standard value : SideConfig) (written : Written (sideEntries standard value) json) :
    distinctKeys sideKeys json = true :=
  written_distinct (side_keys_distinct standard value) json written

theorem config_unambiguous (written : Written (entries config) json) : unambiguous json = true := by
  have once : distinctKeys keys json = true := written_distinct config.keys_distinct json written
  cases written with
  | object given extra members known unknown order =>
      have told := object_under known unknown order config.keys_distinct
      simp only [unambiguous, once, Bool.true_and, List.all_eq_true, Bool.or_eq_true]
      rintro ⟨key, value⟩ member
      by_cases server : key = "server"
      · subst server
        exact .inr (side_distinct value _ _ (tells_writes (told 4 rfl) value member))
      · by_cases client : key = "client"
        · subst client
          exact .inr (side_distinct value _ _ (tells_writes (told 5 rfl) value member))
        · exact .inl (by simp [server, client])
  | array items listed =>
      simp only [unambiguous, once, Bool.true_and, List.all_eq_true]
      intro value member
      obtain ⟨index, place⟩ := List.mem_iff_getElem?.mp member
      rw [List.getElem?_take] at place
      split at place
      · rw [List.getElem?_drop] at place
        match index with
        | 0 => exact side_distinct value _ _ (listed_writes listed 4 rfl value place)
        | 1 => exact side_distinct value _ _ (listed_writes listed 5 rfl value place)
      · contradiction

theorem written_decodes (written : Written (entries config) json) :
    decode json = .ok config ∧ ∀ document, Json.parse? document = some json → ofDocument? document = some config := by
  have decoded := config_decodes config json written
  refine ⟨decoded, fun document parsed => ?_⟩
  rw [ofDocument?, parsed, Option.bind_some, config_unambiguous config json written, if_pos rfl, decoded]
  rfl

end Whole

def quiet : TracingConfig :=
  { default with skipPatterns := ["/health"], urlPatterns := ["/api/*"], server := ⟨false, "http-server"⟩ }

set_option maxRecDepth 4000 in
theorem written_decodes_quiet :
    ofDocument? ("\x7b\"note\": [1, null], \"server\": \x7b\"since\": 2, \"enabled\": false\x7d, " ++
        "\"url-patterns\": [\"/api/*\"], \"skip-pattern\": \"/health\"\x7d") = some quiet ∧
      ofDocument? "[true, [\"/health\"], false, [\"/api/*\"], [false]]" = some quiet := by
  constructor
  · have off : Given (sideEntries defaultServer quiet.server) [("enabled", .bool false)] :=
      .written _ _ _ _ rfl (.omitted _ _ _ rfl .nothing)
    have server := Written.object _ [("since", .int 2)] _ off (by decide) (List.reverse_perm _)
    have known : Given quiet.entries _ :=
      .omitted _ _ _ rfl (.written _ _ _ _ (.single "/health") (.omitted _ _ _ rfl
        (.written _ _ _ _ rfl (.written _ _ _ _ server (.omitted _ _ _ rfl .nothing)))))
    have written := Written.object _ [("note", .array [.int 1, .null])] _ known (by decide) (List.reverse_perm _)
    exact (written_decodes quiet _ written).2 _ rfl
  · have server : Written (sideEntries defaultServer quiet.server) (.array [.bool false]) :=
      .array _ (.written _ _ _ _ rfl (.ended _ (List.forall_mem_singleton.mpr rfl)))
    have listed : Listed quiet.entries
        [.bool true, .array [.text "/health"], .bool false, .array [.text "/api/*"], .array [.bool false]] := by
      refine .written _ _ _ _ rfl (.written _ _ _ _ (.list ["/health"]) (.written _ _ _ _ rfl ?_))
      exact .written _ _ _ _ rfl (.written _ _ _ _ server (.ended _ (List.forall_mem_singleton.mpr rfl)))
    exact (written_decodes quiet _ (.array _ listed)).2 _ rfl

end RequestSpans.TracingConfig
