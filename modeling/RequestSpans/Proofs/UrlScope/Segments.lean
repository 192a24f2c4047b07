import RequestSpans.Proofs.UrlScope.Grammar
import RequestSpans.Text.Split

set_option autoImplicit false

namespace RequestSpans

namespace UrlPattern

def segments (path : List Char) : List (List Char) := Text.split '/' path

def Covers (text path : List Char) : Prop :=
  if text = ['/'] ∨ text = ['/', '*'] then True
  else if ['*', '.'] <+: text then text.tail <:+ Text.lastPart '/' path
  else if ['/', '*'] <:+ text then segments (text.take (text.length - 2)) <+: segments path
  else path = text

instance (text path : List Char) : Decidable (Covers text path) :=
  inferInstanceAs (Decidable (ite _ _ _))

theorem covers_below (start path : List Char) :
    (UrlPattern.below start).covers path = true ↔ path = start ∨ start ++ ['/'] <+: path := by
  have behind : start.isPrefixOf path = true ∧ (path.drop start.length).head? = some '/' ↔ start ++ ['/'] <+: path := by
    rw [List.isPrefixOf_iff_prefix]
    constructor
    · rintro ⟨⟨rest, rfl⟩, slash⟩
      rw [List.drop_left] at slash
      cases rest with
      | nil => contradiction
      | cons first rest =>
          obtain rfl : first = '/' := Option.some.inj slash
          exact ⟨rest, by simp⟩
    · rintro ⟨rest, rfl⟩
      refine ⟨⟨'/' :: rest, by simp⟩, by simp⟩
  simp only [covers, Bool.or_eq_true, Bool.and_eq_true, decide_eq_true_eq, behind]

theorem reads_covers (text path : List Char) (p : UrlPattern) (reads : Reads text p) :
    p.covers path = true ↔ Covers text path := by
  cases reads with
  | root => simp [covers, Covers]
  | everything => simp [covers, Covers]
  | ending extension some_ single =>
      have clean : '/' ∉ '.' :: extension := by simp [single]
      rw [covers, ends_with_iff, ← Text.last_part_suffix_iff '/' _ path clean]
      simp [Covers]
  | below start plain =>
      have closed : ['/', '*'] <:+ '/' :: (start ++ ['/', '*']) := List.suffix_append ('/' :: start) _
      rw [covers_below, ← Text.split_prefix_iff]
      simp [Covers, wildcard_longer start, closed, segments]
  | only target some_ plain closed =>
      have star : target ≠ ['*'] := by
        rintro rfl
        exact plain List.mem_cons_self
      simp [covers, Covers, some_, star, closed]

end UrlPattern

namespace UrlScope

open UrlPattern

theorem scope_covers_iff_segments (texts : List String) (scope : UrlScope) (read : parse texts = .ok scope) (path : String) :
    scope.covers path = true ↔ texts = [] ∨ ∃ text ∈ texts, UrlPattern.Covers text.toList path.toList := by
  have same := (parse_ok_iff texts scope.patterns).mp read
  have empty : scope.patterns = [] ↔ texts = [] := by
    rw [← List.map_eq_nil_iff (f := (.ok : UrlPattern → Except BuildError UrlPattern)), ← same, List.map_eq_nil_iff]
  have member := parse_member texts scope read
  simp only [covers, Bool.or_eq_true, List.isEmpty_iff, empty, List.any_eq_true]
  refine or_congr_right ⟨?_, ?_⟩
  · rintro ⟨pattern, known, covered⟩
    obtain ⟨text, among, found⟩ := (member pattern).mp known
    exact ⟨text, among, (reads_covers _ path.toList pattern (parse_reads text pattern found)).mp covered⟩
  · rintro ⟨text, among, covered⟩
    obtain ⟨pattern, known, found⟩ := parse_each texts scope read text among
    exact ⟨pattern, known, (reads_covers _ path.toList pattern (parse_reads text pattern found)).mpr covered⟩

theorem scope_covers_iff_segments_shop :
    ∃ scope, parse ["/api/*", "/archive//*", "*.json", "/hello"] = .ok scope ∧
      scope.covers "/api/users/1" = true ∧ scope.covers "/apidocs" = false ∧
      scope.covers "/archive//2024" = true ∧ scope.covers "/archive/2024" = false := by
  refine ⟨_, rfl, ?_⟩
  have known := scope_covers_iff_segments ["/api/*", "/archive//*", "*.json", "/hello"] _ rfl
  refine ⟨(known _).mpr (by decide), ?_, (known _).mpr (by decide), ?_⟩
  · exact Bool.eq_false_iff.mpr fun covered => absurd ((known _).mp covered) (by decide)
  · exact Bool.eq_false_iff.mpr fun covered => absurd ((known _).mp covered) (by decide)

end UrlScope

end RequestSpans
