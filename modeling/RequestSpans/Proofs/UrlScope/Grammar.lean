import RequestSpans.UrlScope

set_option autoImplicit false

namespace RequestSpans

namespace UrlPattern

-- Patterns as servlets have them: an extension, or a path that may end in a
-- wildcard of its own segment.
def Servlet (text : List Char) : Prop :=
  (['*', '.'] <+: text ∧ text.drop 2 ≠ [] ∧ '/' ∉ text.drop 2 ∧ '*' ∉ text.drop 2) ∨
    (['/'] <+: text ∧ ('*' ∉ text ∨ ['/', '*'] <:+ text ∧ text.count '*' = 1))

def StarredExtension (text : List Char) : Prop := ['*', '.'] <+: text ∧ '/' ∉ text.drop 2 ∧ '*' ∈ text.drop 2

def InForm (text : List Char) : Prop := Servlet text ∨ StarredExtension text

instance (text : List Char) : Decidable (Servlet text) := inferInstanceAs (Decidable (_ ∨ _))

instance (text : List Char) : Decidable (StarredExtension text) := inferInstanceAs (Decidable (_ ∧ _))

instance (text : List Char) : Decidable (InForm text) := inferInstanceAs (Decidable (_ ∨ _))

def complaint : List Char → String
  | '*' :: '.' :: _ => "malformed extension"
  | '/' :: _ => "wildcard only allowed at the end"
  | _ => "must start with `/` or `*.`"

def literal : UrlPattern → List Char
  | .any => []
  | .below start => start
  | .ending suffix => suffix
  | .only path => path

inductive Reads : List Char → UrlPattern → Prop
  | root : Reads ['/'] .any
  | everything : Reads ['/', '*'] .any
  | ending (extension : List Char) (some_ : extension ≠ []) (single : '/' ∉ extension) :
      Reads ('*' :: '.' :: extension) (.ending ('.' :: extension))
  | below (start : List Char) (plain : '*' ∉ start) : Reads ('/' :: (start ++ ['/', '*'])) (.below ('/' :: start))
  | only (path : List Char) (some_ : path ≠ []) (plain : '*' ∉ path) (closed : ¬['/', '*'] <:+ '/' :: path) :
      Reads ('/' :: path) (.only ('/' :: path))

inductive Verdict (pattern : String) : Except BuildError UrlPattern → Prop
  | read (p : UrlPattern) (reads : Reads pattern.toList p) : Verdict pattern (.ok p)
  | refused (formless : ¬InForm pattern.toList) : Verdict pattern (.error (.urlPattern pattern (complaint pattern.toList)))

theorem in_form_extension (extension : List Char) :
    InForm ('*' :: '.' :: extension) ↔ extension ≠ [] ∧ '/' ∉ extension := by
  by_cases starred : '*' ∈ extension
  · have some_ : extension ≠ [] := List.ne_nil_of_mem starred
    simp [InForm, Servlet, StarredExtension, starred, some_]
  · simp [InForm, Servlet, StarredExtension, starred]

theorem in_form_path (path : List Char) :
    InForm ('/' :: path) ↔ '*' ∉ path ∨ ['/', '*'] <:+ '/' :: path ∧ path.count '*' = 1 := by
  simp [InForm, Servlet, StarredExtension]

theorem in_form_below (start : List Char) : InForm ('/' :: (start ++ ['/', '*'])) ↔ '*' ∉ start := by
  have closed : ['/', '*'] <:+ '/' :: (start ++ ['/', '*']) := List.suffix_append ('/' :: start) _
  rw [in_form_path, ← List.count_eq_zero, ← List.count_eq_zero]
  simp [closed]

theorem reads_in_form (text : List Char) (p : UrlPattern) (reads : Reads text p) : InForm text := by
  cases reads with
  | root => decide
  | everything => decide
  | ending extension some_ single => exact (in_form_extension extension).mpr ⟨some_, single⟩
  | below start plain => exact (in_form_below start).mpr plain
  | only path some_ plain closed => exact (in_form_path path).mpr (.inl plain)

theorem reads_literal (text : List Char) (p : UrlPattern) (reads : Reads text p) (starred : '*' ∈ p.literal) :
    StarredExtension text ∧ p = .ending text.tail := by
  cases reads with
  | root => simp [literal] at starred
  | everything => simp [literal] at starred
  | ending extension some_ single =>
      have star : '*' ∈ extension := by simpa [literal] using starred
      exact ⟨⟨List.prefix_append ['*', '.'] extension, single, star⟩, rfl⟩
  | below start plain => exact absurd starred (by simp [literal, plain])
  | only path some_ plain closed => exact absurd starred (by simp [literal, plain])

theorem starred_literal (text : List Char) (starred : StarredExtension text) : '*' ∈ (ending text.tail).literal := by
  obtain ⟨⟨extension, rfl⟩, -, star⟩ := starred
  exact List.mem_cons_of_mem '.' star

theorem ends_with_iff (suffix text : List Char) : endsWith suffix text = true ↔ suffix <:+ text := by
  rw [endsWith, List.isPrefixOf_iff_prefix, List.reverse_prefix]

theorem below_star_append (start : List Char) : belowStar? (start ++ ['/', '*']) = some start := by
  rw [belowStar?, if_pos ((ends_with_iff _ _).mpr (List.suffix_append _ _))]
  simp

theorem wildcard_longer (start : List Char) : start ++ ['/', '*'] ≠ ['*'] := by
  intro same
  have length := congrArg List.length same
  simp at length

theorem below_star_closed (text : List Char) (closed : ¬['/', '*'] <:+ text) : belowStar? text = none := by
  rw [belowStar?, if_neg]
  rwa [ends_with_iff]

section Forms

variable (pattern : String)

theorem judged_read (p : UrlPattern) (read : parse pattern = .ok p) (reads : Reads pattern.toList p) :
    Verdict pattern (parse pattern) := by
  rw [read]
  exact .read p reads

theorem judged_refused (refused : parse pattern = .error (.urlPattern pattern (complaint pattern.toList)))
    (formless : ¬InForm pattern.toList) : Verdict pattern (parse pattern) := by
  rw [refused]
  exact .refused formless

theorem extension_judged (extension : List Char) (text : pattern.toList = '*' :: '.' :: extension) :
    Verdict pattern (parse pattern) := by
  by_cases malformed : extension = [] ∨ '/' ∈ extension
  · have refused : parse pattern = .error (.urlPattern pattern (complaint pattern.toList)) := by
      simp [parse, text, malformed, complaint]
    refine judged_refused pattern refused ?_
    rw [text, in_form_extension]
    exact fun good => malformed.elim good.1 good.2
  · have read : parse pattern = .ok (.ending ('.' :: extension)) := by simp [parse, text, malformed]
    obtain ⟨some_, single⟩ := not_or.mp malformed
    exact judged_read pattern _ read (text ▸ .ending extension some_ single)

theorem below_judged (start : List Char) (text : pattern.toList = '/' :: (start ++ ['/', '*'])) :
    Verdict pattern (parse pattern) := by
  have cut : belowStar? ('/' :: (start ++ ['/', '*'])) = some ('/' :: start) := below_star_append ('/' :: start)
  have longer := wildcard_longer start
  by_cases plain : '*' ∈ start
  · have refused : parse pattern = .error (.urlPattern pattern (complaint pattern.toList)) := by
      simp [parse, text, longer, cut, plain, complaint]
    refine judged_refused pattern refused ?_
    rw [text, in_form_below]
    exact fun good => good plain
  · have read : parse pattern = .ok (.below ('/' :: start)) := by simp [parse, text, longer, cut, plain]
    exact judged_read pattern _ read (text ▸ .below start plain)

theorem only_judged (path : List Char) (text : pattern.toList = '/' :: path) (some_ : path ≠ [])
    (closed : ¬['/', '*'] <:+ '/' :: path) : Verdict pattern (parse pattern) := by
  have uncut := below_star_closed _ closed
  have star : path ≠ ['*'] := by
    rintro rfl
    exact closed List.suffix_rfl
  by_cases plain : '*' ∈ path
  · have refused : parse pattern = .error (.urlPattern pattern (complaint pattern.toList)) := by
      simp [parse, text, some_, star, uncut, plain, complaint]
    refine judged_refused pattern refused ?_
    rw [text, in_form_path]
    exact fun good => good.elim (fun clean => clean plain) (fun cut => closed cut.1)
  · have read : parse pattern = .ok (.only ('/' :: path)) := by simp [parse, text, some_, star, uncut, plain]
    exact judged_read pattern _ read (text ▸ .only path some_ plain closed)

theorem path_judged (path : List Char) (text : pattern.toList = '/' :: path) : Verdict pattern (parse pattern) := by
  by_cases root : path = []
  · have read : parse pattern = .ok .any := by simp [parse, text, root]
    exact judged_read pattern _ read (text ▸ root ▸ .root)
  · by_cases cut : ['/', '*'] <:+ '/' :: path
    · obtain ⟨before, whole⟩ := cut
      cases before with
      | nil =>
          have star : path = ['*'] := (List.cons.inj whole).2.symm
          have read : parse pattern = .ok .any := by simp [parse, text, star]
          exact judged_read pattern _ read (text ▸ star ▸ .everything)
      | cons first start =>
          obtain ⟨rfl, rfl⟩ := List.cons.inj whole
          exact below_judged pattern start text
    · exact only_judged pattern path text root cut

theorem other_judged (no_extension : ∀ rest, pattern.toList ≠ '*' :: '.' :: rest)
    (no_path : ∀ rest, pattern.toList ≠ '/' :: rest) : Verdict pattern (parse pattern) := by
  have told : complaint pattern.toList = "must start with `/` or `*.`" := by
    unfold complaint
    split
    · exact absurd ‹_› (no_extension _)
    · exact absurd ‹_› (no_path _)
    · rfl
  have refused : parse pattern = .error (.urlPattern pattern (complaint pattern.toList)) := by
    simp only [parse, no_path, or_self, if_false, told]
  refine judged_refused pattern refused ?_
  rintro ((⟨⟨rest, whole⟩, -⟩ | ⟨⟨rest, whole⟩, -⟩) | ⟨⟨rest, whole⟩, -⟩)
  · exact no_extension rest whole.symm
  · exact no_path rest whole.symm
  · exact no_extension rest whole.symm

theorem parse_judged : Verdict pattern (parse pattern) := by
  by_cases extension : ∃ rest, pattern.toList = '*' :: '.' :: rest
  · obtain ⟨rest, text⟩ := extension
    exact extension_judged pattern rest text
  · by_cases path : ∃ rest, pattern.toList = '/' :: rest
    · obtain ⟨rest, text⟩ := path
      exact path_judged pattern rest text
    · exact other_judged pattern (not_exists.mp extension) (not_exists.mp path)

theorem parse_reads (p : UrlPattern) (read : parse pattern = .ok p) : Reads pattern.toList p := by
  have judged := parse_judged pattern
  rw [read] at judged
  cases judged with
  | read _ reads => exact reads

theorem parse_in_form (good : InForm pattern.toList) : ∃ p, parse pattern = .ok p := by
  have judged := parse_judged pattern
  cases read : parse pattern with
  | ok p => exact ⟨p, rfl⟩
  | error error =>
      rw [read] at judged
      cases judged with
      | refused formless => exact absurd good formless

theorem parse_formless (formless : ¬InForm pattern.toList) :
    parse pattern = .error (.urlPattern pattern (complaint pattern.toList)) := by
  have judged := parse_judged pattern
  cases read : parse pattern with
  | ok p => exact absurd (reads_in_form _ p (parse_reads pattern p read)) formless
  | error error =>
      rw [read] at judged
      cases judged with
      | refused _ => rfl

end Forms

end UrlPattern

namespace UrlScope

open UrlPattern

theorem parse_cons (text : String) (rest : List String) : parse (text :: rest) =
    match UrlPattern.parse text with
    | .ok pattern => (parse rest).map fun scope => ⟨pattern :: scope.patterns⟩
    | .error error => .error error := by
  simp only [parse, List.mapM_cons]
  cases UrlPattern.parse text with
  | error error => rfl
  | ok pattern => cases rest.mapM UrlPattern.parse <;> rfl

theorem parse_ok_iff (texts : List String) (patterns : List UrlPattern) :
    parse texts = .ok ⟨patterns⟩ ↔ texts.map UrlPattern.parse = patterns.map .ok := by
  induction texts generalizing patterns with
  | nil =>
      have nothing : parse [] = .ok ⟨[]⟩ := rfl
      simp [nothing, eq_comm]
  | cons text rest ih =>
      rw [parse_cons, List.map_cons]
      cases patterns with
      | nil =>
          cases UrlPattern.parse text with
          | error error => simp
          | ok pattern => cases parse rest <;> simp [Except.map]
      | cons first others =>
          rw [List.map_cons, List.cons.injEq, ← ih others]
          cases UrlPattern.parse text with
          | error error => simp
          | ok pattern =>
              cases parse rest with
              | error error => simp [Except.map]
              | ok scope =>
                  obtain ⟨patterns⟩ := scope
                  simp [Except.map]

theorem parse_member (texts : List String) (scope : UrlScope) (read : parse texts = .ok scope) (pattern : UrlPattern) :
    pattern ∈ scope.patterns ↔ ∃ text ∈ texts, UrlPattern.parse text = .ok pattern := by
  have same := (parse_ok_iff texts scope.patterns).mp read
  have among : pattern ∈ scope.patterns ↔ Except.ok pattern ∈ scope.patterns.map (.ok : UrlPattern → Except BuildError _) := by
    simp
  rw [among, ← same, List.mem_map]

theorem parse_each (texts : List String) (scope : UrlScope) (read : parse texts = .ok scope) (text : String)
    (known : text ∈ texts) : ∃ pattern ∈ scope.patterns, UrlPattern.parse text = .ok pattern := by
  have same := (parse_ok_iff texts scope.patterns).mp read
  have among : UrlPattern.parse text ∈ scope.patterns.map .ok := same ▸ List.mem_map_of_mem known
  obtain ⟨pattern, member, found⟩ := List.mem_map.mp among
  exact ⟨pattern, member, found.symm⟩

theorem parse_all (texts : List String) (good : ∀ text ∈ texts, InForm text.toList) : ∃ scope, parse texts = .ok scope := by
  induction texts with
  | nil => exact ⟨⟨[]⟩, rfl⟩
  | cons text rest ih =>
      obtain ⟨pattern, read⟩ := parse_in_form text (good text List.mem_cons_self)
      obtain ⟨scope, others⟩ := ih fun other member => good other (List.mem_cons_of_mem text member)
      refine ⟨⟨pattern :: scope.patterns⟩, ?_⟩
      rw [parse_cons, read, others]
      rfl

theorem parse_first (before behind : List String) (culprit : String) (good : ∀ text ∈ before, InForm text.toList)
    (formless : ¬InForm culprit.toList) :
    parse (before ++ culprit :: behind) = .error (.urlPattern culprit (complaint culprit.toList)) := by
  induction before with
  | nil => rw [List.nil_append, parse_cons, parse_formless culprit formless]
  | cons text rest ih =>
      obtain ⟨pattern, read⟩ := parse_in_form text (good text List.mem_cons_self)
      rw [List.cons_append, parse_cons, read, ih fun other member => good other (List.mem_cons_of_mem text member)]
      rfl

theorem accepts_iff_in_form (texts : List String) :
    ((∃ scope, parse texts = .ok scope) ↔ ∀ text ∈ texts, InForm text.toList) ∧
    (∀ before culprit behind, texts = before ++ culprit :: behind → (∀ text ∈ before, InForm text.toList) →
      ¬InForm culprit.toList → parse texts = .error (.urlPattern culprit (complaint culprit.toList))) ∧
    ∀ scope, parse texts = .ok scope → ∀ pattern ∈ scope.patterns, '*' ∈ pattern.literal ↔
      ∃ text ∈ texts, StarredExtension text.toList ∧ pattern = .ending text.toList.tail := by
  refine ⟨⟨?_, parse_all texts⟩, ?_, ?_⟩
  · rintro ⟨scope, read⟩ text known
    obtain ⟨pattern, -, found⟩ := parse_each texts scope read text known
    exact reads_in_form _ pattern (parse_reads text pattern found)
  · rintro before culprit behind rfl good formless
    exact parse_first before behind culprit good formless
  · intro scope read pattern member
    constructor
    · intro starred
      obtain ⟨text, known, found⟩ := (parse_member texts scope read pattern).mp member
      exact ⟨text, known, reads_literal _ pattern (parse_reads text pattern found) starred⟩
    · rintro ⟨text, -, starred, rfl⟩
      exact starred_literal _ starred

theorem accepts_iff_in_form_shop :
    (∃ scope, parse ["/api/*", "*.json"] = .ok scope) ∧
      parse ["/api/*", "*.json", "/a/*/b", "*."] = .error (.urlPattern "/a/*/b" "wildcard only allowed at the end") := by
  have good : ∀ text ∈ ["/api/*", "*.json"], InForm text.toList := by decide
  exact ⟨(accepts_iff_in_form _).1.mpr good,
    (accepts_iff_in_form _).2.1 ["/api/*", "*.json"] "/a/*/b" ["*."] rfl good (by decide)⟩

-- Meant for whatever has an extension, and taken for those that end in a star.
theorem starred_extension_taken :
    ¬Servlet "*.*".toList ∧ parse ["*.*"] = .ok ⟨[.ending ['.', '*']]⟩ ∧
      (UrlScope.mk [.ending ['.', '*']]).covers "/report.json" = false ∧
      (UrlScope.mk [.ending ['.', '*']]).covers "/report.*" = true :=
  ⟨by decide, rfl, by decide, by decide⟩

end UrlScope

end RequestSpans
