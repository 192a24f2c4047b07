import RequestSpans.BuildError

set_option autoImplicit false

namespace RequestSpans

inductive UrlPattern where
  | any
  | below (path : List Char)
  | ending (suffix : List Char)
  | only (path : List Char)
deriving Repr, DecidableEq, Inhabited

namespace UrlPattern

def endsWith (suffix text : List Char) : Bool := suffix.reverse.isPrefixOf text.reverse

def belowStar? (text : List Char) : Option (List Char) :=
  if endsWith ['/', '*'] text then some (text.take (text.length - 2)) else none

def parse (pattern : String) : Except BuildError UrlPattern :=
  let refuse (reason : String) : Except BuildError UrlPattern := .error (.urlPattern pattern reason)
  let text := pattern.toList
  if text = ['/', '*'] ∨ text = ['/'] then .ok .any
  else
    match text with
    | '*' :: '.' :: suffix =>
      if suffix.isEmpty || suffix.contains '/' then refuse "malformed extension"
      else .ok (.ending ('.' :: suffix))
    | '/' :: _ =>
      match belowStar? text with
      | some path =>
        if path.contains '*' then refuse "wildcard only allowed at the end" else .ok (.below path)
      | none =>
        if text.contains '*' then refuse "wildcard only allowed at the end" else .ok (.only text)
    | _ => refuse "must start with `/` or `*.`"

def covers (pattern : UrlPattern) (path : List Char) : Bool :=
  match pattern with
  | .any => true
  | .below start =>
    path = start || (start.isPrefixOf path && (path.drop start.length).head? = some '/')
  | .ending suffix => endsWith suffix path
  | .only target => path = target

end UrlPattern

structure UrlScope where
  patterns : List UrlPattern
deriving Repr, DecidableEq, Inhabited

namespace UrlScope

def everything : UrlScope := ⟨[.any]⟩

def unlimited : UrlScope := ⟨[]⟩

def parse (patterns : List String) : Except BuildError UrlScope :=
  (patterns.mapM UrlPattern.parse).map UrlScope.mk

def covers (scope : UrlScope) (path : String) : Bool :=
  scope.patterns.isEmpty || scope.patterns.any fun pattern => pattern.covers path.toList

end UrlScope

end RequestSpans
