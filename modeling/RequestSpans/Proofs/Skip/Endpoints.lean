import RequestSpans.Proofs.Skip

set_option autoImplicit false

namespace RequestSpans.Skip

open Pattern

def Below (path : List Char) (ids : List String) (word : List Char) : Prop :=
  ∃ id ∈ ids, word = path ++ id.toList ∨ path ++ id.toList ++ ['/'] <+: word

def Compiles [Engine] (text : String) : Prop := (PathPattern.read? text).isSome = true

theorem endpoints_none [Engine] (base : String) : SkipMatcher.ofSources [endpoints base []] = .ok .none := rfl

theorem endpoints_shallow (base : String) (ids : List String) : (endpointsPattern base ids).depth + 3 ≤ depthLimit := by
  have depth : (endpointsPattern base ids).depth ≤ 5 := exposed_depth _ _
  exact Nat.le_trans (Nat.add_le_add_right depth 3) (by decide)

section Texts

variable [Engine] (base : String) (ids : List String) (some_ : ids ≠ [])

include some_

theorem endpoints_alone : PathPattern.read? (endpointsText base ids) =
    if Engine.fits (endpointsPattern base ids).value
    then some ⟨endpointsText base ids, (endpointsPattern base ids).value⟩ else none := by
  have shallow : (endpointsPattern base ids).depth ≤ depthLimit := Nat.le_trans (Nat.le_add_right _ 3) (endpoints_shallow base ids)
  rw [PathPattern.read?, fits_alone (endpoints_fits base ids some_) _ rfl]
  simp only [Group.choice, shallow, true_and]
  split <;> rfl

theorem endpoints_joined : PathPattern.read? (joinedText [endpointsText base ids]) =
    if Engine.fits (between (endpointsPattern base ids).value)
    then some ⟨joinedText [endpointsText base ids], between (endpointsPattern base ids).value⟩ else none := by
  have shape : (joinedText [endpointsText base ids]).toList = anchored (grouped (endpointsText base ids).toList) := by
    rw [joined_list, List.map_singleton, endpoints_bare]
    rfl
  have shallow : (endpointsPattern base ids).depth + 1 + 1 + 1 ≤ depthLimit := endpoints_shallow base ids
  rw [PathPattern.read?, encloses_anchored (encloses_grouped (fits_encloses (endpoints_fits base ids some_))) _ shape]
  simp only [Group.choice, shallow, true_and]
  split <;> rfl

theorem endpoints_compile : Compiles (endpointsText base ids) ↔ Engine.fits (endpointsPattern base ids).value = true := by
  rw [Compiles, endpoints_alone base ids some_]
  split <;> simp_all

theorem joined_compile : Compiles (joinedText [endpointsText base ids]) ↔
    Engine.fits (between (endpointsPattern base ids).value) = true := by
  rw [Compiles, endpoints_joined base ids some_]
  split <;> simp_all

theorem endpoints_left_out (broken : ¬ Compiles (endpointsText base ids)) :
    SkipMatcher.ofSources [endpoints base ids] = .ok .none := by
  have absent : endpoints base ids = none := by
    rw [endpoints, if_neg (by simpa using some_)]
    simpa [Compiles] using broken
  rw [absent]
  rfl

theorem endpoints_source (compiles : Compiles (endpointsText base ids)) :
    SkipMatcher.ofSources [endpoints base ids] = (join [endpointsText base ids]).map SkipMatcher.mk := by
  have fits := (endpoints_compile base ids some_).mp compiles
  rw [endpoints, if_neg (by simpa using some_), endpoints_alone base ids some_, if_pos fits]
  rfl

theorem endpoints_built (alone : Compiles (endpointsText base ids)) (joined : Compiles (joinedText [endpointsText base ids])) :
    SkipMatcher.ofSources [endpoints base ids] =
      .ok ⟨some ⟨joinedText [endpointsText base ids], between (endpointsPattern base ids).value⟩⟩ := by
  have fits := (joined_compile base ids some_).mp joined
  rw [endpoints_source base ids some_ alone, join, if_neg (by simp), endpoints_joined base ids some_, if_pos fits]
  rfl

theorem endpoints_blamed (alone : Compiles (endpointsText base ids)) (broken : ¬ Compiles (joinedText [endpointsText base ids])) :
    SkipMatcher.ofSources [endpoints base ids] = .error (.skipPattern (joinedText [endpointsText base ids])) := by
  have large := mt (joined_compile base ids some_).mpr broken
  rw [endpoints_source base ids some_ alone, join, if_neg (by simp), endpoints_joined base ids some_, if_neg large]
  rfl

end Texts

-- A path on a single line has no line feed in what is below the endpoint.
theorem exposed_below (path : List Char) (ids : List String) (word : List Char) (line : '\n' ∉ word) :
    (∃ name ∈ ids.map String.toList, ∃ rest, word = path ++ name ++ rest ∧
      (rest = [] ∨ ∃ tail, rest = '/' :: tail ∧ '\n' ∉ tail)) ↔ Below path ids word := by
  constructor
  · rintro ⟨_, known, rest, rfl, ends⟩
    obtain ⟨id, listed, rfl⟩ := List.mem_map.mp known
    refine ⟨id, listed, ?_⟩
    rcases ends with rfl | ⟨tail, rfl, -⟩
    · exact .inl (List.append_nil _)
    · exact .inr ⟨tail, by simp⟩
  · rintro ⟨id, listed, rfl | ⟨tail, rfl⟩⟩
    · exact ⟨id.toList, List.mem_map_of_mem listed, [], (List.append_nil _).symm, .inl rfl⟩
    · refine ⟨id.toList, List.mem_map_of_mem listed, '/' :: tail, by simp, .inr ⟨tail, rfl, fun member => line ?_⟩⟩
      exact List.mem_append_right _ member

theorem exposed_skips (base : String) (ids : List String) (some_ : ids ≠ []) (text : String) (path : String)
    (line : '\n' ∉ path.toList) :
    (SkipMatcher.mk (some ⟨text, between (endpointsPattern base ids).value⟩)).skips path = true ↔
      Below (endpointsPath base) ids path.toList := by
  rw [← exposed_below _ ids _ line, ← denotes_whole (exposed_denotes _ _ (by simpa using some_)), ← between_matches]
  rfl

-- The endpoints skip exactly their paths and what is below these, as long as their
-- text and the joined one compile. Both are read whatever the characters are, so
-- only the engine can turn them down.
theorem endpoints_skip_below [Engine] (base : String) (ids : List String) :
    (ids = [] ∨ Compiles (endpointsText base ids) ∧ Compiles (joinedText [endpointsText base ids]) →
      ∃ matcher, SkipMatcher.ofSources [endpoints base ids] = .ok matcher ∧
        ∀ path : String, '\n' ∉ path.toList →
          (matcher.skips path = true ↔ Below (endpointsPath base) ids path.toList)) ∧
    (ids ≠ [] → ¬ Compiles (endpointsText base ids) → SkipMatcher.ofSources [endpoints base ids] = .ok .none) ∧
    (ids ≠ [] → Compiles (endpointsText base ids) → ¬ Compiles (joinedText [endpointsText base ids]) →
      SkipMatcher.ofSources [endpoints base ids] = .error (.skipPattern (joinedText [endpointsText base ids]))) ∧
    (ids ≠ [] → (Compiles (endpointsText base ids) ↔ Engine.fits (endpointsPattern base ids).value = true) ∧
      (Compiles (joinedText [endpointsText base ids]) ↔ Engine.fits (between (endpointsPattern base ids).value) = true)) := by
  refine ⟨fun compile => ?_, endpoints_left_out base ids, endpoints_blamed base ids, fun some_ =>
    ⟨endpoints_compile base ids some_, joined_compile base ids some_⟩⟩
  by_cases some_ : ids = []
  · subst some_
    exact ⟨.none, endpoints_none base, fun path _ => by simp [SkipMatcher.none, SkipMatcher.skips, Below]⟩
  · obtain ⟨alone, joined⟩ := compile.resolve_left some_
    exact ⟨_, endpoints_built base ids some_ alone joined,
      exposed_skips base ids some_ (joinedText [endpointsText base ids])⟩

def longName (n : Nat) : String := String.ofList (List.replicate n 'a')

def total {α : Type} (size : α → Nat) : List α → Nat
  | [] => 0
  | part :: rest => size part + total size rest

theorem folded_states {α : Type} (join : Pattern → Pattern → Pattern) (value : α → Pattern)
    (adds : ∀ a b, (join a b).states = a.states + b.states) (parts : List α) (behind : Pattern) :
    (parts.foldl (fun behind part => join (value part) behind) behind).states =
      total (fun part => (value part).states) parts + behind.states := by
  induction parts generalizing behind with
  | nil => exact (Nat.zero_add _).symm
  | cons part rest ih =>
      rw [List.foldl_cons, ih, adds, total]
      omega

theorem sequence_states (items : List Item) :
    (Group.sequence items).value.states = total (·.pattern.value.states) items := by
  match items with
  | [] => rfl
  | [item] => rfl
  | first :: next :: rest => exact folded_states .cat _ (fun _ _ => rfl) _ .empty

theorem choice_states (branches : List (Nested Pattern)) :
    (Group.choice branches).value.states = total (·.value.states) branches := by
  match branches with
  | [] => rfl
  | [branch] => rfl
  | last :: next :: rest =>
      exact (folded_states .alt _ (fun _ _ => rfl) (next :: rest) last.value).trans (Nat.add_comm _ _)

theorem literal_states (text : List Char) : (literal text).value.states = text.length := by
  have each : ∀ letters : List Char, total (·.pattern.value.states) (letters.map letter) = letters.length := by
    intro letters
    induction letters with
    | nil => rfl
    | cons c rest ih => rw [List.map_cons, total, ih, List.length_cons, Nat.add_comm]; rfl
  rw [literal, sequence_states, each, List.length_reverse]

theorem among_le_total {α : Type} (size : α → Nat) (parts : List α) (part : α) (known : part ∈ parts) :
    size part ≤ total size parts := by
  induction known with
  | head rest => exact Nat.le_add_right _ _
  | tail first _ ih => exact Nat.le_trans ih (Nat.le_add_left _ _)

theorem name_le_states (base : String) (ids : List String) (id : String) (known : id ∈ ids) :
    id.toList.length ≤ (endpointsPattern base ids).value.states := by
  have names := among_le_total (·.value.states) ((ids.map String.toList).reverse.map literal) (literal id.toList)
    (List.mem_map_of_mem (List.mem_reverse.mpr (List.mem_map_of_mem known)))
  have either := among_le_total (·.pattern.value.states)
    (underneath :: eitherOf (ids.map String.toList) :: (endpointsPath base).reverse.map letter)
    (eitherOf (ids.map String.toList)) (List.mem_cons_of_mem _ List.mem_cons_self)
  rw [literal_states, ← choice_states] at names
  rw [← sequence_states] at either
  exact Nat.le_trans names either

theorem long_name_broken (ids : List String) (known : longName 500000 ∈ ids) : ¬ Compiles (endpointsText "" ids) := by
  have large := name_le_states "" ids (longName 500000) known
  rw [longName, String.toList_ofList, List.length_replicate] at large
  rw [endpoints_compile "" ids (List.ne_nil_of_mem known)]
  intro fits
  have small : (endpointsPattern "" ids).value.states ≤ 10 * 1024 * 1024 / 32 := of_decide_eq_true fits
  omega

theorem endpoints_skip_below_actuator :
    (∃ matcher, SkipMatcher.ofSources [endpoints "/actuator/" ["health", "info"]] = .ok matcher ∧
      ∀ path : String, '\n' ∉ path.toList →
        (matcher.skips path = true ↔ Below (endpointsPath "/actuator/") ["health", "info"] path.toList)) ∧
    SkipMatcher.ofSources [endpoints "" [longName 500000]] = .ok .none := by
  have general := endpoints_skip_below "/actuator/" ["health", "info"]
  have compile := general.2.2.2 (by simp)
  exact ⟨general.1 (.inr ⟨compile.1.mpr (by decide +kernel), compile.2.mpr (by decide +kernel)⟩),
    (endpoints_skip_below "" [longName 500000]).2.1 (by simp) (long_name_broken _ (by simp))⟩

theorem long_name_skips_nothing :
    ∃ matcher, SkipMatcher.ofSources [endpoints "" ["health", longName 500000]] = .ok matcher ∧
      '\n' ∉ "/health".toList ∧ Below (endpointsPath "") ["health", longName 500000] "/health".toList ∧
      matcher.skips "/health" = false :=
  ⟨.none, endpoints_left_out _ _ (by simp) (long_name_broken _ (by simp)), by decide +kernel,
    ⟨"health", List.mem_cons_self, .inl (by decide +kernel)⟩, rfl⟩

end RequestSpans.Skip
