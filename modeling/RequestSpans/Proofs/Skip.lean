import RequestSpans.Config.Basic
import RequestSpans.Pattern.Budget
import RequestSpans.Proofs.Pattern.Alone
import RequestSpans.Proofs.Pattern.Exposed

/-!
Skipped paths. A path is skipped exactly if one of the patterns matches all of it, wherever the
pattern comes from and however often it was joined, as long as each pattern is contained: read in a
group of its own it closes what it opens and leaves the flags alone. Without that the text of one
pattern reaches into the next one.
-/
set_option autoImplicit false

namespace RequestSpans.Skip

open Pattern

theorem anchored_cut (word : List Char) : anchored word = opening ++ (word ++ closing) := by
  simp [anchored, grouped, opening, closing]

theorem strip_anchored (word : List Char) : stripAnchors (anchored word) = word := by
  have opened : (anchored word).take 4 = opening := rfl
  have inner : (anchored word).drop 4 = word ++ closing := by rw [anchored_cut]; rfl
  have size : (word ++ closing).length - 2 = word.length := by simp [closing]
  simp only [stripAnchors, opened, inner, size, if_true, List.drop_left, List.take_left]

theorem strip_cases (text : List Char) : stripAnchors text = text ∨ text = anchored (stripAnchors text) := by
  unfold stripAnchors
  dsimp only
  split
  · rename_i opened
    split
    · rename_i closed
      refine .inr ?_
      calc text = text.take 4 ++ text.drop 4 := (List.take_append_drop 4 text).symm
        _ = opening ++ text.drop 4 := by rw [opened]
        _ = opening ++ (_ ++ closing) := by rw [← closed, List.take_append_drop]
        _ = _ := (anchored_cut _).symm
    · exact .inl rfl
  · exact .inl rfl

theorem joined_list (texts : List String) :
    (joinedText texts).toList = anchored (Text.join '|' (texts.map fun text => grouped (stripAnchors text.toList))) := by
  rw [anchored_cut, ← Text.intercalate_join]
  simp only [joinedText, String.toList_append, String.toList_intercalate, List.map_map]
  have wrapped : (String.toList ∘ fun text : String => "(?:" ++ String.ofList (stripAnchors text.toList) ++ ")") =
      fun text => grouped (stripAnchors text.toList) := by
    funext text
    simp [grouped]
  rw [wrapped]
  simp [opening, closing]

theorem read_text [Engine] (text : String) (pattern : PathPattern) (read : PathPattern.read? text = some pattern) :
    pattern.text = text ∧ Pattern.parse? text = some pattern.pattern := by
  obtain ⟨parsed, known, rfl⟩ := Option.map_eq_some_iff.mp read
  exact ⟨rfl, known⟩

-- In the group that it gets when it is joined, the text closes what it opens and
-- leaves the flags as they were.
def contained (text : String) : Bool :=
  let word := grouped (stripAnchors text.toList)
  (Reading.run? word.length .start word).any fun e => e.outer.isEmpty && e.flags = .default

theorem default_contained : contained defaultText = true := by decide +kernel

def endpointsPath (base : String) : List Char := Text.dropEndWhile (· = '/') base.toList ++ ['/']

theorem endpoints_list (base : String) (ids : List String) :
    (endpointsText base ids).toList = exposedText (endpointsPath base) (ids.map String.toList) := by
  have slash : escape ['/'] = ['/'] := rfl
  rw [exposedText, endpointsPath, List.map_map, ← Text.intercalate_join, escape, List.flatMap_append, ← escape, ← escape, slash]
  simp [endpointsText, String.toList_intercalate, Function.comp_def]

theorem endpoints_bare (base : String) (ids : List String) :
    stripAnchors (endpointsText base ids).toList = (endpointsText base ids).toList := by
  rcases strip_cases (endpointsText base ids).toList with bare | dressed
  · exact bare
  · have first := escaped_first [endpointsPath base]
      ('(' :: (Text.join '|' ((ids.map String.toList).map escape) ++ ")(/.*)?".toList)) '^' (by decide) (by decide) (by simp)
    rw [endpoints_list] at dressed
    exact absurd (congrArg List.head? dressed) first

def endpointsPattern (base : String) (ids : List String) : Nested Pattern :=
  exposed (endpointsPath base) (ids.map String.toList)

theorem endpoints_fits (base : String) (ids : List String) (some_ : ids ≠ []) :
    Fits (endpointsText base ids).toList [] [endpointsPattern base ids] := by
  rw [endpoints_list]
  exact exposed_fits _ _ (by simpa using some_)

theorem endpoints_contained (base : String) (ids : List String) (some_ : ids ≠ []) :
    contained (endpointsText base ids) = true := by
  have run := crosses_alone (fits_encloses (endpoints_fits base ids some_) .start rfl (by simp))
  rw [contained, endpoints_bare, run]
  rfl

theorem endpoints_read [Engine] (base : String) (ids : List String) (pattern : PathPattern)
    (made : endpoints base ids = some pattern) :
    PathPattern.read? pattern.text = some pattern ∧ contained pattern.text = true := by
  unfold endpoints at made
  split at made
  · contradiction
  · rename_i some_
    rw [(read_text _ pattern made).1]
    exact ⟨made, endpoints_contained base ids (by simpa using some_)⟩

theorem endpoints_found [Engine] (exposed : List (String × List String)) (pattern : PathPattern)
    (known : pattern ∈ (exposed.map fun (base, ids) => endpoints base ids).filterMap id) :
    PathPattern.read? pattern.text = some pattern ∧ contained pattern.text = true := by
  obtain ⟨source, listed, present⟩ := List.mem_filterMap.mp known
  obtain ⟨⟨base, ids⟩, _, rfl⟩ := List.mem_map.mp listed
  exact endpoints_read base ids pattern present

def Joins (pattern : PathPattern) : Prop :=
  Part (grouped (stripAnchors pattern.text.toList)) fun path => pattern.pattern.matchesWhole path = true

theorem contained_reading (text : String) (closes : contained text = true) :
    ∃ e, Contained (grouped (stripAnchors text.toList)) e := by
  obtain ⟨e, run, kept⟩ := (Option.any_eq_true _ _).mp closes
  simp only [Bool.and_eq_true, List.isEmpty_iff, decide_eq_true_eq] at kept
  exact ⟨e, run, kept.1, kept.2⟩

theorem contained_joins [Engine] (text : String) (pattern : PathPattern) (read : PathPattern.read? text = some pattern)
    (closes : contained text = true) : Joins pattern := by
  obtain ⟨rfl, parsed⟩ := read_text text pattern read
  obtain ⟨e, whole⟩ := contained_reading pattern.text closes
  have same : e.group.Accepts = fun path => pattern.pattern.matchesWhole path = true := by
    refine funext fun path => propext ?_
    rcases strip_cases pattern.text.toList with bare | dressed
    · rw [bare] at whole
      exact grouped_alone whole pattern.text pattern.pattern rfl parsed path
    · exact anchored_alone whole pattern.text pattern.pattern dressed parsed path
  rw [Joins, ← same]
  exact contained_part _ e whole

theorem joined_joins [Engine] (members : List PathPattern) (some_ : members ≠ []) (joins : ∀ member ∈ members, Joins member)
    (joined : PathPattern) (read : PathPattern.read? (joinedText (members.map (·.text))) = some joined) :
    Joins joined ∧ ∀ path, (joined.matchesIn path = true ↔ ∃ member ∈ members, member.pattern.matchesWhole path = true) ∧
      (joined.pattern.matchesWhole path = true ↔ ∃ member ∈ members, member.pattern.matchesWhole path = true) := by
  obtain ⟨text, parsed⟩ := read_text _ joined read
  have shape := joined_list (members.map (·.text))
  rw [List.map_map] at shape
  have part := joined_part (fun member : PathPattern => grouped (stripAnchors member.text.toList)) _ members some_ joins
  have whole := anchored_matches part _ _ shape parsed
  refine ⟨?_, whole⟩
  rw [Joins, text, shape, strip_anchored]
  simp only [(whole _).2]
  exact grouped_part part

theorem join_members [Engine] (members : List PathPattern) (joins : ∀ member ∈ members, Joins member) (joined? : Option PathPattern)
    (built : join (members.map (·.text)) = .ok joined?) :
    (∀ joined ∈ joined?.toList, Joins joined) ∧ ∀ path,
      (joined?.any (·.matchesIn path) = true ↔ ∃ member ∈ members, member.pattern.matchesWhole path = true) ∧
      ((∃ joined ∈ joined?.toList, joined.pattern.matchesWhole path = true) ↔
        ∃ member ∈ members, member.pattern.matchesWhole path = true) := by
  cases members with
  | nil =>
      obtain rfl := Except.ok.inj built
      simp
  | cons first rest =>
      rw [join, if_neg (by simp)] at built
      cases read : PathPattern.read? (joinedText ((first :: rest).map (·.text))) with
      | none =>
          rw [read] at built
          contradiction
      | some joined =>
          rw [read] at built
          obtain rfl := Except.ok.inj built
          simpa using joined_joins (first :: rest) (by simp) joins joined read

theorem read_texts [Engine] (texts : List String) (compile : ∀ text ∈ texts, (PathPattern.read? text).isSome) :
    (texts.filterMap PathPattern.read?).map (·.text) = texts := by
  induction texts with
  | nil => rfl
  | cons text rest ih =>
      obtain ⟨pattern, read⟩ := Option.isSome_iff_exists.mp (compile text List.mem_cons_self)
      rw [List.filterMap_cons_some read, List.map_cons, (read_text text pattern read).1,
        ih fun other known => compile other (List.mem_cons_of_mem text known)]

theorem configured_join [Engine] (texts : List String) (result : Option PathPattern) (built : configured texts = .ok result) :
    join ((texts.filterMap PathPattern.read?).map (·.text)) = .ok result := by
  unfold configured at built
  split at built
  · contradiction
  · rename_i sound
    rw [read_texts texts fun text known => ?_]
    · exact built
    · simpa [Option.isSome_iff_ne_none] using List.find?_eq_none.mp sound text known

def individual [Engine] (config : TracingConfig) (discovered : List (Option PathPattern)) : List PathPattern :=
  config.skipPatterns.filterMap PathPattern.read? ++
    ((if config.ignoreDefaultSkipPatterns then [] else [defaults]) ++ discovered).filterMap id

theorem sources_skip [Engine] (sources : List (Option PathPattern)) (matcher : SkipMatcher)
    (joins : ∀ pattern ∈ sources.filterMap id, Joins pattern) (built : SkipMatcher.ofSources sources = .ok matcher)
    (path : String) :
    matcher.skips path = true ↔ ∃ pattern ∈ sources.filterMap id, pattern.pattern.matchesWhole path = true := by
  have texts : (sources.filterMap fun source => source.map (·.text)) = (sources.filterMap id).map (·.text) := by
    rw [List.map_filterMap]
    rfl
  rw [SkipMatcher.ofSources, texts] at built
  cases joined : join ((sources.filterMap id).map (·.text)) with
  | error reason =>
      rw [joined] at built
      contradiction
  | ok joined? =>
      rw [joined] at built
      obtain rfl := Except.ok.inj built
      exact ((join_members _ joins joined? joined).2 path).1

theorem skips_individual [Engine] (config : TracingConfig) (discovered : List (Option PathPattern)) (matcher : SkipMatcher)
    (built : config.skipMatcher discovered = .ok matcher)
    (joins : ∀ pattern ∈ individual config discovered, Joins pattern) (path : String) :
    matcher.skips path = true ↔ ∃ pattern ∈ individual config discovered, pattern.pattern.matchesWhole path = true := by
  unfold TracingConfig.skipMatcher at built
  cases first : configured config.skipPatterns with
  | error reason =>
      rw [first] at built
      contradiction
  | ok joined? =>
      rw [first] at built
      obtain ⟨again, once⟩ := join_members _ (fun member known => joins member (List.mem_append_left _ known)) joined?
        (configured_join config.skipPatterns joined? first)
      change SkipMatcher.ofSources
        (joined? :: ((if config.ignoreDefaultSkipPatterns then [] else [defaults]) ++ discovered)) = .ok matcher at built
      have present : ∀ others : List (Option PathPattern),
          (joined? :: others).filterMap id = joined?.toList ++ others.filterMap id := by
        intro others
        cases joined? <;> rfl
      rw [sources_skip _ matcher _ built, present]
      · simp only [individual, List.mem_append, or_and_right, exists_or, (once path).2]
      · intro pattern known
        rw [present] at known
        rcases List.mem_append.mp known with joined | other
        · exact again pattern joined
        · exact joins pattern (List.mem_append_right _ other)

theorem individual_joins [Engine] (config : TracingConfig) (discovered : List (Option PathPattern))
    (compiled : ∀ pattern ∈ discovered.filterMap id, PathPattern.read? pattern.text = some pattern)
    (configured : ∀ text ∈ config.skipPatterns, contained text = true)
    (present : ∀ pattern ∈ discovered.filterMap id, contained pattern.text = true)
    (pattern : PathPattern) (known : pattern ∈ individual config discovered) : Joins pattern := by
  rw [individual, List.filterMap_append] at known
  rcases List.mem_append.mp known with given | other
  · obtain ⟨text, listed, read⟩ := List.mem_filterMap.mp given
    exact contained_joins text pattern read (configured text listed)
  rcases List.mem_append.mp other with builtin | found
  · split at builtin
    · contradiction
    · obtain ⟨source, listed, read⟩ := List.mem_filterMap.mp builtin
      obtain rfl := List.mem_singleton.mp listed
      exact contained_joins defaultText pattern read default_contained
  · exact contained_joins pattern.text pattern (compiled pattern found) (present pattern found)

-- A path is skipped exactly if one of the patterns matches it by itself. So
-- neither their order matters, nor which of them are configured and which are
-- found.
theorem skips_iff_one_matches [Engine] (config : TracingConfig) (discovered : List (Option PathPattern)) (matcher : SkipMatcher)
    (built : config.skipMatcher discovered = .ok matcher)
    (compiled : ∀ pattern ∈ discovered.filterMap id, PathPattern.read? pattern.text = some pattern)
    (configured : ∀ text ∈ config.skipPatterns, contained text = true)
    (present : ∀ pattern ∈ discovered.filterMap id, contained pattern.text = true) :
    (∀ path, matcher.skips path = true ↔
      ∃ pattern ∈ individual config discovered, pattern.pattern.matchesWhole path = true) ∧
    ∀ (other : TracingConfig) (found : List (Option PathPattern)) (again : SkipMatcher),
      other.skipMatcher found = .ok again →
      (∀ pattern, pattern ∈ individual other found ↔ pattern ∈ individual config discovered) →
      ∀ path, again.skips path = matcher.skips path := by
  have joins := individual_joins config discovered compiled configured present
  refine ⟨skips_individual config discovered matcher built joins, fun other found again rebuilt same path => ?_⟩
  rw [Bool.eq_iff_iff, skips_individual config discovered matcher built joins,
    skips_individual other found again rebuilt fun pattern known => joins pattern ((same pattern).mp known)]
  simp only [same]

def shopConfig : TracingConfig :=
  { TracingConfig.default with skipPatterns := ["^(?:/health|/ready)$", "(?s)/metrics.*"] }

def shopExposed : List (Option PathPattern) :=
  [("/manage", ["info"]), ("/internal", [])].map fun (base, ids) => endpoints base ids

theorem skips_iff_one_matches_shop :
    ∃ matcher, shopConfig.skipMatcher shopExposed = .ok matcher ∧
      ∀ path, matcher.skips path = true ↔
        ∃ pattern ∈ individual shopConfig shopExposed, pattern.pattern.matchesWhole path = true := by
  have built : (shopConfig.skipMatcher shopExposed).toOption.isSome = true := by decide +kernel
  have found := endpoints_found [("/manage", ["info"]), ("/internal", [])]
  cases joined : shopConfig.skipMatcher shopExposed with
  | error reason =>
      rw [joined] at built
      contradiction
  | ok matcher =>
      exact ⟨matcher, rfl, (skips_iff_one_matches shopConfig shopExposed matcher joined
        (fun pattern known => (found pattern known).1) (by decide +kernel) fun pattern known => (found pattern known).2).1⟩

def answers (texts : List String) (path : String) : Option (Bool × Bool) :=
  let config := { TracingConfig.default with skipPatterns := texts, ignoreDefaultSkipPatterns := true }
  (config.skipMatcher []).toOption.map fun matcher =>
    (matcher.skips path, (individual config []).any fun pattern => pattern.pattern.matchesWhole path)

-- A comment at the end of a pattern goes on over what joins it to the next one. And
-- a pattern that merely looks like a joined one is taken apart, so that the flags
-- which it sets hold for what comes after it.
theorem joined_text_reaches_on :
    answers ["(?x) /orders # reads", "(?x)\n/items # writes\n"] "/orders" = some (false, true) ∧
      answers ["(?x) /orders # reads", "(?x)\n/items # writes\n"] "/orders/items" = some (true, false) ∧
      answers ["^(?:/a)(?i-u)(?:/b)$", "/d"] "/D" = some (true, false) ∧
      answers ["/d", "^(?:/a)(?i-u)(?:/b)$"] "/D" = some (false, false) := by
  decide +kernel

end RequestSpans.Skip
