import RequestSpans.Text.Case
import RequestSpans.Text.Numeral

set_option autoImplicit false

namespace RequestSpans

structure Uri where
  scheme : Option String
  authority : Option String
  target : String
deriving Repr, DecidableEq, Inhabited

namespace Uri

def isAuthorityChar (c : Char) : Bool :=
  c.isAlphanum || "!$&'()*+,-.;=_~".toList.contains c

-- What has been seen of an authority since the last `@` or `]`, and of its
-- brackets.
structure AuthorityScan where
  colons : Nat
  opened : Bool
  closed : Bool
  percent : Bool
deriving Repr, DecidableEq

namespace AuthorityScan

def start : AuthorityScan := ⟨0, false, false, false⟩

def next? (s : AuthorityScan) (c : Char) : Option AuthorityScan :=
  if c = ':' then if s.colons ≥ 8 then none else some { s with colons := s.colons + 1 }
  else if c = '[' then
    if s.percent || s.opened then none else some { s with opened := true }
  else if c = ']' then
    if !s.opened || s.closed then none
    else some { s with closed := true, colons := 0, percent := false }
  else if c = '@' then some { s with colons := 0, percent := false }
  else if c = '%' then some { s with percent := true }
  else if isAuthorityChar c then some s
  else none

def accepts (s : AuthorityScan) : Bool :=
  s.opened == s.closed && s.colons ≤ 1 && !s.percent

def run? : AuthorityScan → List Char → Option AuthorityScan
  | s, [] => some s
  | s, c :: rest => (s.next? c).bind fun s' => run? s' rest

end AuthorityScan

def isAuthority (text : List Char) : Bool :=
  text.getLast? ≠ some '@' &&
    match AuthorityScan.run? .start text with
    | some s => s.accepts
    | none => false

def endsAuthority (c : Char) : Bool := c = '/' || c = '?' || c = '#'

def takeAuthority? (text : List Char) : Option (List Char × List Char) :=
  let authority := text.takeWhile fun c => !endsAuthority c
  if isAuthority authority then some (authority, text.dropWhile fun c => !endsAuthority c)
  else none

def isPathChar (c : Char) : Bool :=
  c > '\x7f' || (c > ' ' && c ≠ '\x7f' && !"<>`".toList.contains c)

def isQueryChar (c : Char) : Bool :=
  c > '\x7f' || (c > ' ' && c ≠ '\x7f' && !"\"<>".toList.contains c)

def target? (text : List Char) : Option (List Char) :=
  let kept := text.takeWhile (· ≠ '#')
  let path := kept.takeWhile (· ≠ '?')
  let query := kept.dropWhile (· ≠ '?')
  if path.all isPathChar && query.all isQueryChar then some kept else none

def isSchemeChar (c : Char) : Bool := c.isAlphanum || "+-.".toList.contains c

def startsWithFolded (start text : List Char) : Bool :=
  Text.equalsFolded (text.take start.length) start

-- The scheme in front of `://` and the text behind it; the outer `none` is a
-- scheme too long.
def takeScheme? (text : List Char) : Option (Option (List Char × List Char)) :=
  if startsWithFolded "http://".toList text then some (some ("http".toList, text.drop 7))
  else if startsWithFolded "https://".toList text then some (some ("https".toList, text.drop 8))
  else
    let scheme := text.takeWhile isSchemeChar
    let rest := text.dropWhile isSchemeChar
    if text.length > 3 ∧ rest.take 3 = "://".toList then
      if scheme.length > 64 then none else some (some (scheme, rest.drop 3))
    else some none

def absolute? (scheme rest : List Char) : Option Uri :=
  match takeAuthority? rest with
  | none | some ([], _) => none
  | some (authority, rest) =>
    (target? rest).map fun target =>
      ⟨some (String.ofList scheme), some (String.ofList authority), String.ofList target⟩

def withAuthority? (text : List Char) : Option Uri :=
  match takeScheme? text with
  | none => none
  | some (some (scheme, rest)) => absolute? scheme rest
  | some none =>
    match takeAuthority? text with
    | some (authority, []) => some ⟨none, some (String.ofList authority), ""⟩
    | _ => none

def parse? (text : String) : Option Uri :=
  if text.utf8ByteSize > 65534 then none
  else
    match text.toList with
    | [] => none
    | ['*'] => some ⟨none, none, "*"⟩
    | '/' :: rest => (target? ('/' :: rest)).map fun target => ⟨none, none, String.ofList target⟩
    | chars => withAuthority? chars

def path (uri : Uri) : String :=
  let path := uri.target.toList.takeWhile (· ≠ '?')
  if !path.isEmpty then String.ofList path
  else if uri.target.isEmpty && uri.scheme.isNone then ""
  else "/"

def query? (uri : Uri) : Option String :=
  match uri.target.toList.dropWhile (· ≠ '?') with
  | [] => none
  | _ :: query => some (String.ofList query)

def pathAndQuery? (uri : Uri) : Option String :=
  if uri.scheme.isSome || uri.authority.isNone then
    some (if uri.target.isEmpty then "/" else uri.target)
  else none

def render (uri : Uri) : String :=
  (uri.scheme.map (· ++ "://")).getD "" ++ uri.authority.getD "" ++ uri.path
    ++ (uri.query?.map ("?" ++ ·)).getD ""

def host? (uri : Uri) : Option String :=
  uri.authority.map fun authority =>
    let behindUser := (authority.toList.reverse.takeWhile (· ≠ '@')).reverse
    match behindUser with
    | '[' :: _ => String.ofList (behindUser.takeWhile (· ≠ ']') ++ [']'])
    | _ => String.ofList (behindUser.takeWhile (· ≠ ':'))

def port? (uri : Uri) : Option Nat :=
  uri.authority.bind fun authority =>
    let reversed := authority.toList.reverse
    if reversed.contains ':' then
      Text.unsigned? 10 65535 (reversed.takeWhile (· ≠ ':')).reverse
    else none

end Uri

end RequestSpans
