import RequestSpans.Proofs.Skip.Joining

set_option autoImplicit false

namespace RequestSpans.Skip

open Pattern

def rejoined : Nat → String → String
  | 0, text => text
  | n + 1, text => joinedText [rejoined n text]

def refed [Engine] : Nat → SkipMatcher → Except BuildError SkipMatcher
  | 0, matcher => .ok matcher
  | n + 1, matcher => (refed n matcher).bind fun matcher => SkipMatcher.ofSources [matcher.pattern?]

-- What stands between the anchors of a text, if it is a single item in the group
-- that it gets there.
def inner? (text : String) : Option (Nested Pattern) :=
  let word := grouped (stripAnchors text.toList)
  match Reading.run? word.length .start word with
  | some ⟨flags, _, ⟨[], [⟨inner, true⟩], _⟩, []⟩ => if flags = .default then some inner else none
  | _ => none

theorem inner_encloses (text : String) (inner : Nested Pattern) (known : inner? text = some inner) :
    ∃ names, Encloses (stripAnchors text.toList) names inner := by
  unfold inner? at known
  dsimp only at known
  split at known
  · rename_i flags names found outerFlags run
    split at known
    · rename_i plain
      obtain rfl := Option.some.inj known
      exact ⟨names, reading_encloses ⟨run, rfl, plain⟩ found rfl rfl⟩
    · contradiction
  · contradiction

theorem encloses_inner {word : List Char} {names : List String} {inner : Nested Pattern}
    (encloses : Encloses word names inner) (text : String) (shape : text.toList = anchored word) : inner? text = some inner := by
  have run := crosses_alone (encloses .start rfl (by simp [Reading.start]))
  rw [inner?, shape, strip_anchored, run]
  rfl

theorem rejoined_shape (text : String) (word : List Char) (shape : text.toList = anchored word) :
    (joinedText [text]).toList = anchored (grouped word) := by
  rw [joined_list, List.map_singleton, shape, strip_anchored]
  rfl

section Rounds

variable [Engine] {word : List Char} {names : List String} {inner : Nested Pattern} (encloses : Encloses word names inner)
  (joined : PathPattern) (shape : joined.text.toList = anchored word)

include encloses shape

theorem encloses_round (value : joined.pattern = between inner.value)
    (small : Engine.fits (between inner.value) = true) :
    SkipMatcher.ofSources [some joined] = if inner.depth + 2 ≤ depthLimit
      then .ok ⟨some ⟨joinedText [joined.text], joined.pattern⟩⟩ else .error (.skipPattern (joinedText [joined.text])) := by
  have read := encloses_anchored (encloses_grouped encloses) _ (rejoined_shape joined.text word shape)
  have again : join [joined.text] = if inner.depth + 2 ≤ depthLimit
      then .ok (some ⟨joinedText [joined.text], joined.pattern⟩) else .error (.skipPattern (joinedText [joined.text])) := by
    rw [join, if_neg (by simp), PathPattern.read?, read, value]
    by_cases shallow : inner.depth + 2 ≤ depthLimit
    · simp [shallow, small]
    · simp [shallow]
  rw [SkipMatcher.ofSources]
  simp only [List.filterMap_cons, List.filterMap_nil, Option.map_some, again]
  split <;> rfl

omit [Engine] in
theorem refed_encloses (n : Nat) :
    ∃ word', (rejoined n joined.text).toList = anchored word' ∧ Encloses word' names ⟨inner.value, inner.depth + n⟩ := by
  induction n with
  | zero => exact ⟨word, shape, encloses⟩
  | succ n ih =>
      obtain ⟨word', shape', encloses'⟩ := ih
      exact ⟨grouped word', rejoined_shape _ word' shape', encloses_grouped encloses'⟩

variable (value : joined.pattern = between inner.value) (small : Engine.fits (between inner.value) = true)

include value small

theorem refed_ok (n : Nat) (shallow : inner.depth + n < depthLimit) :
    refed n ⟨some joined⟩ = .ok ⟨some ⟨rejoined n joined.text, joined.pattern⟩⟩ := by
  induction n with
  | zero => rfl
  | succ n ih =>
      obtain ⟨word', shape', encloses'⟩ := refed_encloses encloses joined shape n
      have round := encloses_round encloses' ⟨rejoined n joined.text, joined.pattern⟩ shape' value small
      rw [refed, ih (by omega)]
      change SkipMatcher.ofSources _ = _
      rw [round, if_pos (by dsimp only; omega)]
      rfl

theorem refed_error (n : Nat) (fits : inner.depth < depthLimit) (deep : depthLimit ≤ inner.depth + n) :
    refed n ⟨some joined⟩ = .error (.skipPattern (rejoined (depthLimit - inner.depth) joined.text)) := by
  induction n with
  | zero => omega
  | succ n ih =>
      by_cases earlier : depthLimit ≤ inner.depth + n
      · rw [refed, ih earlier]
        rfl
      · have last : depthLimit - inner.depth = n + 1 := by omega
        obtain ⟨word', shape', encloses'⟩ := refed_encloses encloses joined shape n
        have round := encloses_round encloses' ⟨rejoined n joined.text, joined.pattern⟩ shape' value small
        rw [refed, refed_ok encloses joined shape value small n (by omega), last]
        change SkipMatcher.ofSources _ = _
        rw [round, if_neg (by dsimp only; omega)]
        rfl

end Rounds

theorem join_read [Engine] (texts : List String) (joined : PathPattern) (built : join texts = .ok (some joined)) :
    texts ≠ [] ∧ PathPattern.read? (joinedText texts) = some joined := by
  unfold join at built
  split at built
  · simp at built
  · rename_i some_
    refine ⟨by simpa using some_, ?_⟩
    split at built
    · rename_i found read
      rw [read, Option.some.inj (Except.ok.inj built)]
    · contradiction

theorem configured_joined [Engine] (texts : List String) (result : Option PathPattern) (built : configured texts = .ok result) :
    join texts = .ok result := by
  unfold configured at built
  split at built
  · contradiction
  · exact built

theorem contained_inner [Engine] (texts : List String) (joined : PathPattern) (built : join texts = .ok (some joined))
    (closes : ∀ text ∈ texts, contained text = true) :
    inner? joined.text = some ⟨(alternation texts).value, (alternation texts).depth + 1⟩ := by
  obtain ⟨some_, read⟩ := join_read texts joined built
  obtain ⟨text, -⟩ := read_text _ joined read
  have joinable : Joinable texts := by
    rw [joined_read texts some_ closes] at read
    split at read
    · assumption
    · contradiction
  have fits := join_fits (fun text : String => grouped (stripAnchors text.toList)) groupNames branches texts some_
    (fun text known => contained_fits (contained_member text (closes text known))) joinable.1
  exact encloses_inner (fits_encloses fits) joined.text (by rw [text]; exact joined_list texts)

theorem inner_limits [Engine] (texts : List String) (joined : PathPattern) (inner : Nested Pattern)
    (read : PathPattern.read? (joinedText texts) = some joined) (known : inner? joined.text = some inner) :
    ∃ word names, Encloses word names inner ∧ joined.text.toList = anchored word ∧ joined.pattern = between inner.value ∧
      inner.depth < depthLimit ∧ Engine.fits (between inner.value) = true := by
  obtain ⟨text, parsed⟩ := read_text _ joined read
  obtain ⟨names, encloses⟩ := inner_encloses joined.text inner known
  have shape : joined.text.toList = anchored (stripAnchors joined.text.toList) := by
    rw [text, joined_list, strip_anchored]
  rw [← text, encloses_anchored encloses joined.text shape] at parsed
  split at parsed
  · rename_i limits
    exact ⟨_, names, encloses, shape, (Option.some.inj parsed).symm, limits.1, limits.2⟩
  · contradiction

theorem pattern_joined [Engine] (text : String) (joined : PathPattern) (built : SkipMatcher.ofPattern text = .ok ⟨some joined⟩) :
    ∃ first, join [text] = .ok (some first) ∧ join [first.text] = .ok (some joined) := by
  cases once : configured [text] with
  | error reason =>
      rw [SkipMatcher.ofPattern, once] at built
      contradiction
  | ok first? =>
      rw [SkipMatcher.ofPattern, once] at built
      change SkipMatcher.ofSources [first?] = _ at built
      cases first? with
      | none => cases built
      | some first =>
          refine ⟨first, configured_joined [text] _ once, ?_⟩
          change (join [first.text]).map SkipMatcher.mk = _ at built
          cases again : join [first.text] with
          | error reason =>
              rw [again] at built
              contradiction
          | ok second? =>
              rw [again] at built
              exact congrArg Except.ok (congrArg SkipMatcher.pattern? (Except.ok.inj built))

theorem pattern_inner [Engine] (text : String) (joined : PathPattern) (built : SkipMatcher.ofPattern text = .ok ⟨some joined⟩)
    (closes : contained text = true) : ∃ inner, inner? joined.text = some inner := by
  obtain ⟨first, once, again⟩ := pattern_joined text joined built
  have single : inner? first.text = some _ := contained_inner [text] first once (by simpa using closes)
  obtain ⟨word, names, encloses, shape, -⟩ := inner_limits [text] first _ (join_read _ _ once).2 single
  obtain ⟨further, -⟩ := read_text _ joined (join_read _ _ again).2
  exact ⟨_, encloses_inner (encloses_grouped encloses) joined.text (by rw [further]; exact rejoined_shape _ word shape)⟩

-- However a joined text came about, and as long as it is a single item in its
-- group, each further round builds a matcher that skips the same paths, until the
-- groups are too deep. The texts of contained patterns are of this kind.
theorem rejoining_skips_same [Engine] (texts : List String) (joined : PathPattern)
    (built : configured texts = .ok (some joined) ∨ ∃ text, texts = [text] ∧ SkipMatcher.ofPattern text = .ok ⟨some joined⟩) :
    ((∀ text ∈ texts, contained text = true) → ∃ inner, inner? joined.text = some inner) ∧
    ∀ inner, inner? joined.text = some inner → ∀ n,
      (inner.depth + n < depthLimit → ∃ matcher, refed n ⟨some joined⟩ = .ok matcher ∧
        matcher.pattern?.map (·.text) = some (rejoined n joined.text) ∧
          ∀ path, matcher.skips path = (SkipMatcher.mk (some joined)).skips path) ∧
      (depthLimit ≤ inner.depth + n →
        refed n ⟨some joined⟩ = .error (.skipPattern (rejoined (depthLimit - inner.depth) joined.text))) := by
  constructor
  · intro closes
    rcases built with configured | ⟨text, rfl, matcher⟩
    · exact ⟨_, contained_inner texts joined (configured_joined texts _ configured) closes⟩
    · exact pattern_inner text joined matcher (closes text List.mem_cons_self)
  · intro inner known n
    have source : ∃ members, join members = .ok (some joined) := by
      rcases built with configured | ⟨text, -, matcher⟩
      · exact ⟨texts, configured_joined texts _ configured⟩
      · obtain ⟨first, -, again⟩ := pattern_joined text joined matcher
        exact ⟨[first.text], again⟩
    obtain ⟨members, joins⟩ := source
    obtain ⟨word, names, encloses, shape, value, fits, small⟩ :=
      inner_limits members joined inner (join_read members joined joins).2 known
    exact ⟨fun shallow => ⟨_, refed_ok encloses joined shape value small n shallow, rfl, fun _ => rfl⟩,
      refed_error encloses joined shape value small n fits⟩

theorem built_pattern {result : Except BuildError (Option PathPattern)} {joined : PathPattern}
    (built : result.toOption.join = some joined) : result = .ok (some joined) := by
  cases result with
  | error reason => contradiction
  | ok joined? => exact congrArg Except.ok built

theorem joined_depth [Engine] (texts : List String) (depth : Nat) (joins : (join texts).toOption.join.isSome = true)
    (known : (inner? (joinedText texts)).map (·.depth) = some depth) :
    ∃ joined inner, join texts = .ok (some joined) ∧ inner? joined.text = some inner ∧ inner.depth = depth := by
  obtain ⟨joined, found⟩ := Option.isSome_iff_exists.mp joins
  have built := built_pattern found
  obtain ⟨inner, single, deep⟩ := Option.map_eq_some_iff.mp known
  refine ⟨joined, inner, built, ?_, deep⟩
  rw [(read_text _ joined (join_read texts joined built).2).1]
  exact single

theorem rejoining_skips_same_shop : ∃ joined, configured ["/health", "^(?:/ready|/live)$"] = .ok (some joined) ∧
    ∃ matcher, refed 200 ⟨some joined⟩ = .ok matcher ∧
      ∀ path, matcher.skips path = (SkipMatcher.mk (some joined)).skips path := by
  have compile : ∀ text ∈ ["/health", "^(?:/ready|/live)$"], (PathPattern.read? text).isSome := by decide +kernel
  obtain ⟨joined, inner, built, single, deep⟩ :=
    joined_depth ["/health", "^(?:/ready|/live)$"] 5 (by decide +kernel) (by decide +kernel)
  rw [← configured_compiled _ compile] at built
  obtain ⟨matcher, kept, -, same⟩ :=
    ((rejoining_skips_same _ joined (.inl built)).2 inner single 200).1 (by rw [deep]; decide)
  exact ⟨joined, built, matcher, kept, same⟩

-- The groups of the plainest pattern are too deep after 247 rounds. And the text
-- that comes of two patterns which only look as if they had been joined cannot be
-- joined again at all.
theorem rejoining_fails :
    (∃ joined, configured ["/health"] = .ok (some joined) ∧ (refed 247 ⟨some joined⟩).toOption.isNone = true) ∧
    ∃ joined, configured ["^(?:a)(?x)b #)$", "^(?:x\n)(?x)d #)$"] = .ok (some joined) ∧
      (refed 1 ⟨some joined⟩).toOption.isNone = true := by
  constructor
  · have compile : ∀ text ∈ ["/health"], (PathPattern.read? text).isSome := by decide +kernel
    obtain ⟨joined, inner, built, single, deep⟩ := joined_depth ["/health"] 3 (by decide +kernel) (by decide +kernel)
    obtain ⟨word, names, encloses, shape, value, fits, small⟩ := inner_limits _ joined inner (join_read _ _ built).2 single
    refine ⟨joined, by rw [configured_compiled _ compile, built], ?_⟩
    rw [refed_error encloses joined shape value small 247 fits (by rw [deep]; decide)]
    rfl
  · have found : ((configured ["^(?:a)(?x)b #)$", "^(?:x\n)(?x)d #)$"]).toOption.join.any fun joined =>
        (refed 1 ⟨some joined⟩).toOption.isNone) = true := by decide +kernel
    obtain ⟨joined, known, failed⟩ := (Option.any_eq_true _ _).mp found
    exact ⟨joined, built_pattern known, failed⟩

end RequestSpans.Skip
