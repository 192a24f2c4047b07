import RequestSpans.Proofs.Pattern.Joined
import RequestSpans.Proofs.Skip

set_option autoImplicit false

namespace RequestSpans.Skip

open Pattern

def memberReading (text : String) : Reading :=
  let word := grouped (stripAnchors text.toList)
  (Reading.run? word.length .start word).getD .start

def groupNames (text : String) : List String := (memberReading text).names

def branches (text : String) : List (Nested Pattern) := (memberReading text).group.alternatives

def alternation (texts : List String) : Nested Pattern := Group.choice (texts.reverse.flatMap branches)

-- Anchors and the group between them come on top of the alternatives.
def Joinable [Engine] (texts : List String) : Prop :=
  (texts.reverse.flatMap groupNames).Nodup ∧ (alternation texts).depth + 2 ≤ depthLimit ∧
    Engine.fits (between (alternation texts).value) = true

instance [Engine] (texts : List String) : Decidable (Joinable texts) :=
  inferInstanceAs (Decidable (_ ∧ _ ∧ _))

theorem contained_member (text : String) (closes : contained text = true) :
    Contained (grouped (stripAnchors text.toList)) (memberReading text) := by
  obtain ⟨e, whole⟩ := contained_reading text closes
  have same : memberReading text = e := by
    simp only [memberReading, whole.run, Option.getD_some]
  rw [same]
  exact whole

theorem joined_read [Engine] (texts : List String) (some_ : texts ≠ []) (closes : ∀ text ∈ texts, contained text = true) :
    PathPattern.read? (joinedText texts) = if Joinable texts
      then some ⟨joinedText texts, between (alternation texts).value⟩ else none := by
  have read := joined_parse (fun text : String => grouped (stripAnchors text.toList)) memberReading texts some_
    (fun text known => contained_member text (closes text known)) (joinedText texts) (joined_list texts)
  have parsed : Pattern.parse? (joinedText texts) =
      if Joinable texts then some (between (alternation texts).value) else none := read
  rw [PathPattern.read?, parsed]
  split <;> rfl

theorem configured_compiled [Engine] (texts : List String) (compile : ∀ text ∈ texts, (PathPattern.read? text).isSome) :
    configured texts = join texts := by
  have sound : (texts.find? fun text => (PathPattern.read? text).isNone) = none := by
    simpa [List.find?_eq_none, Option.isSome_iff_ne_none] using compile
  simp only [configured, sound]

theorem configured_first [Engine] (before behind : List String) (culprit : String)
    (compile : ∀ text ∈ before, (PathPattern.read? text).isSome) (broken : PathPattern.read? culprit = none) :
    configured (before ++ culprit :: behind) = .error (.skipPattern culprit) := by
  have passed : (before.find? fun text => (PathPattern.read? text).isNone) = none := by
    simpa [List.find?_eq_none, Option.isSome_iff_ne_none] using compile
  have found : ((before ++ culprit :: behind).find? fun text => (PathPattern.read? text).isNone) = some culprit := by
    rw [List.find?_append, passed, List.find?_cons_of_pos (by rw [broken]; rfl)]
    rfl
  simp only [configured, found]

theorem join_joined [Engine] (texts : List String) (some_ : texts ≠ []) :
    (∃ joined, join texts = .ok (some joined) ∧ joined.text = joinedText texts) ∨
      join texts = .error (.skipPattern (joinedText texts)) := by
  rw [join, if_neg (by simpa using some_)]
  cases read : PathPattern.read? (joinedText texts) with
  | none => exact .inr rfl
  | some joined => exact .inl ⟨joined, rfl, (read_text _ joined read).1⟩

-- The texts are looked at one by one, and then as a whole. Of contained texts it is
-- known when the whole can be read.
theorem configured_iff_joinable [Engine] (texts : List String) :
    (∀ before culprit behind, texts = before ++ culprit :: behind → (∀ text ∈ before, (PathPattern.read? text).isSome) →
      PathPattern.read? culprit = none → configured texts = .error (.skipPattern culprit)) ∧
    ((∀ text ∈ texts, (PathPattern.read? text).isSome) → texts ≠ [] →
      ((∃ joined, configured texts = .ok (some joined) ∧ joined.text = joinedText texts) ∨
        configured texts = .error (.skipPattern (joinedText texts))) ∧
      ((∃ joined, configured texts = .ok (some joined)) ↔ (PathPattern.read? (joinedText texts)).isSome = true) ∧
      ((∀ text ∈ texts, contained text = true) →
        ((∃ joined, configured texts = .ok (some joined)) ↔ Joinable texts))) ∧
    configured [] = .ok none := by
  refine ⟨?_, ?_, rfl⟩
  · rintro before culprit behind rfl compile broken
    exact configured_first before behind culprit compile broken
  · intro compile some_
    rw [configured_compiled texts compile]
    have joins : (∃ joined, join texts = .ok (some joined)) ↔ (PathPattern.read? (joinedText texts)).isSome = true := by
      rw [join, if_neg (by simpa using some_)]
      cases PathPattern.read? (joinedText texts) <;> simp
    refine ⟨join_joined texts some_, joins, fun closes => ?_⟩
    rw [joins, joined_read texts some_ closes]
    by_cases joinable : Joinable texts
    · simp [joinable]
    · simp [joinable]

theorem configured_iff_joinable_shop :
    let texts := ["^(?:/health|/ready)$", "/orders/(?P<_>[0-9]+)", "(?i)/Metrics"]
    (∃ joined, configured texts = .ok (some joined)) ∧
      configured ["/health", "/broken[", "/ready"] = .error (.skipPattern "/broken[") := by
  intro texts
  have compile : ∀ text ∈ texts, (PathPattern.read? text).isSome := by decide +kernel
  have closes : ∀ text ∈ texts, contained text = true := by decide +kernel
  refine ⟨((configured_iff_joinable texts).2.1 compile (by decide)).2.2 closes |>.mpr (by decide +kernel), ?_⟩
  refine (configured_iff_joinable _).1 ["/health"] "/broken[" ["/ready"] rfl (by decide +kernel) ?_
  rw [← Option.isNone_iff_eq_none]
  decide +kernel

def blamed (texts : List String) : Option String :=
  match configured texts with
  | .error (.skipPattern text) => some text
  | _ => none

-- A comment at the end of a single pattern runs into what joining adds, and two
-- patterns may both name a group.
theorem joined_text_blamed :
    (["(?x)/orders # all orders", "/(?P<_>[0-9]+)", "/user/(?P<_>[a-z]+)"].all fun text =>
      (PathPattern.read? text).isSome) = true ∧
    blamed ["(?x)/orders # all orders"] = some "^(?:(?:(?x)/orders # all orders))$" ∧
    blamed ["/(?P<_>[0-9]+)", "/user/(?P<_>[a-z]+)"] =
      some "^(?:(?:/(?P<_>[0-9]+))|(?:/user/(?P<_>[a-z]+)))$" := by
  decide +kernel

end RequestSpans.Skip
