import RequestSpans.BuildError
import RequestSpans.Pattern.Parser
import RequestSpans.Text.Split

set_option autoImplicit false

namespace RequestSpans

structure PathPattern where
  text : String
  pattern : Pattern
deriving Repr, Inhabited

namespace PathPattern

def read? [Pattern.Engine] (text : String) : Option PathPattern := (Pattern.parse? text).map fun p => ⟨text, p⟩

def matchesIn (pattern : PathPattern) (path : String) : Bool := pattern.pattern.matchesIn path

end PathPattern

namespace Skip

def opening : List Char := "^(?:".toList

def closing : List Char := ")$".toList

def stripAnchors (text : List Char) : List Char :=
  if text.take 4 = opening then
    let inner := text.drop 4
    if inner.drop (inner.length - 2) = closing then inner.take (inner.length - 2) else text
  else text

def joinedText (patterns : List String) : String :=
  let parts := patterns.map fun pattern =>
    "(?:" ++ String.ofList (stripAnchors pattern.toList) ++ ")"
  "^(?:" ++ "|".intercalate parts ++ ")$"

def join [Pattern.Engine] (patterns : List String) : Except BuildError (Option PathPattern) :=
  if patterns.isEmpty then .ok none
  else
    match PathPattern.read? (joinedText patterns) with
    | some joined => .ok (some joined)
    | none => .error (.skipPattern (joinedText patterns))

def configured [Pattern.Engine] (patterns : List String) : Except BuildError (Option PathPattern) :=
  match patterns.find? fun pattern => (PathPattern.read? pattern).isNone with
  | some culprit => .error (.skipPattern culprit)
  | none => join patterns

def defaultText : String :=
  "/api-docs.*|/swagger.*|.*\\.png|.*\\.css|.*\\.js|.*\\.html|/favicon.ico|/hystrix.stream"

def defaults [Pattern.Engine] : Option PathPattern := PathPattern.read? defaultText

def escape (text : List Char) : List Char :=
  text.flatMap fun c => if Pattern.Primitive.isMeta c then ['\\', c] else [c]

def endpointsText (base : String) (ids : List String) : String :=
  let base := String.ofList (escape (Text.dropEndWhile (· = '/') base.toList))
  let ids := "|".intercalate (ids.map fun id => String.ofList (escape id.toList))
  base ++ "/(" ++ ids ++ ")(/.*)?"

def endpoints [Pattern.Engine] (base : String) (ids : List String) : Option PathPattern :=
  if ids.isEmpty then none else PathPattern.read? (endpointsText base ids)

end Skip

structure SkipMatcher where
  pattern? : Option PathPattern
deriving Repr, Inhabited

namespace SkipMatcher

def none : SkipMatcher := ⟨.none⟩

def ofSources [Pattern.Engine] (sources : List (Option PathPattern)) : Except BuildError SkipMatcher :=
  (Skip.join (sources.filterMap fun source => source.map (·.text))).map SkipMatcher.mk

def ofPattern [Pattern.Engine] (pattern : String) : Except BuildError SkipMatcher :=
  (Skip.configured [pattern]).bind fun configured => ofSources [configured]

def skips (matcher : SkipMatcher) (path : String) : Bool :=
  matcher.pattern?.any fun pattern => pattern.matchesIn path

end SkipMatcher

end RequestSpans
