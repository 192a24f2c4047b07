import RequestSpans.Pattern.Basic

set_option autoImplicit false

namespace RequestSpans.Pattern

-- The flags `i`, `m`, `s`, `u`, `R` and `x`; `U` concerns which match is
-- preferred and is read without effect.
structure Flags where
  ignoreCase : Bool
  multiLine : Bool
  dotAll : Bool
  unicode : Bool
  anyLineEnds : Bool
  ignoreSpace : Bool
deriving Repr, DecidableEq, Inhabited

namespace Flags

def default : Flags := ⟨false, false, false, true, false, false⟩

def isFlag (c : Char) : Bool := "imsUuRx".toList.contains c

def set (flags : Flags) (c : Char) (on : Bool) : Flags :=
  match c with
  | 'i' => { flags with ignoreCase := on }
  | 'm' => { flags with multiLine := on }
  | 's' => { flags with dotAll := on }
  | 'u' => { flags with unicode := on }
  | 'R' => { flags with anyLineEnds := on }
  | 'x' => { flags with ignoreSpace := on }
  | _ => flags

def apply (flags : Flags) (items : List Char) : Flags :=
  let on := items.takeWhile (· ≠ '-')
  let off := items.dropWhile (· ≠ '-')
  off.foldl (fun flags c => flags.set c false) (on.foldl (fun flags c => flags.set c true) flags)

def read? (items : List Char) : List Char → Option (List Char × Char × List Char)
  | [] => none
  | c :: rest =>
    if c = ':' ∨ c = ')' then
      if items.head? = some '-' then none else some (items.reverse, c, rest)
    else if (c = '-' ∨ isFlag c) ∧ ¬ items.contains c then read? (c :: items) rest
    else none

end Flags

def skipBlanks : Bool → List Char → List Char
  | _, [] => []
  | true, c :: rest => skipBlanks (c ≠ '\n') rest
  | false, c :: rest =>
    if Named.isBlankChar c then skipBlanks false rest
    else if c = '#' then skipBlanks true rest
    else c :: rest

def Flags.skip (flags : Flags) (text : List Char) : List Char :=
  if flags.ignoreSpace then skipBlanks false text else text

def takeBraced (flags : Flags) : Nat → List Char → Option (List Char × List Char)
  | 0, _ => none
  | fuel + 1, text =>
    match flags.skip text with
    | [] => none
    | '}' :: rest => some ([], rest)
    | c :: rest => (takeBraced flags fuel rest).map fun (taken, rest) => (c :: taken, rest)

end RequestSpans.Pattern
