import RequestSpans.Pattern.Primitive

set_option autoImplicit false

namespace RequestSpans.Pattern

structure Nested (α : Type) where
  value : α
  depth : Nat

namespace Bracket

inductive Operator where
  | inter
  | diff
  | symmDiff
deriving Repr, DecidableEq, Inhabited

-- What waits while a class is being read: an enclosing class, or the left side
-- of an operator.
inductive Frame where
  | enclosing (items : List (Nested CharSet)) (negated : Bool)
  | left (operator : Operator) (set : Nested CharSet)

def unite : List (Nested CharSet) → Nested CharSet
  | [] => ⟨.none, 0⟩
  | [item] => item
  | items => ⟨.unions (items.map (·.value)), 1 + (items.map (·.depth)).foldl max 0⟩

def combine (flags : Flags) (operator : Operator) (a b : Nested CharSet) : Nested CharSet :=
  let left := Primitive.foldSet flags a.value
  let right := Primitive.foldSet flags b.value
  let set := match operator with
    | .inter => CharSet.inter left right
    | .diff => .diff left right
    | .symmDiff => .symmDiff left right
  ⟨set, 1 + max a.depth b.depth⟩

def settle (flags : Flags) (set : Nested CharSet) : List Frame → Nested CharSet × List Frame
  | .left operator waiting :: frames => (combine flags operator waiting set, frames)
  | frames => (set, frames)

def close? (flags : Flags) (negated : Bool) (set : Nested CharSet) : Option (Nested CharSet) :=
  (Primitive.negateSet? flags negated (Primitive.foldSet flags set.value)).map fun value =>
    ⟨value, set.depth + 1⟩

def readHyphens (flags : Flags) : Nat → List Char → List (Nested CharSet) × List Char
  | fuel + 1, '-' :: rest =>
    let (items, rest) := readHyphens flags fuel (flags.skip rest)
    (items ++ [⟨.single '-', 0⟩], rest)
  | _, text => ([], text)

def readOpening? (flags : Flags) (text : List Char) :
    Option (Bool × List (Nested CharSet) × List Char) :=
  let text := flags.skip text
  let (negated, text) := match text with
    | '^' :: rest => (true, flags.skip rest)
    | _ => (false, text)
  let (hyphens, text) := readHyphens flags text.length text
  let (items, text) := match hyphens, text with
    | [], ']' :: rest => ([(⟨.single ']', 0⟩ : Nested CharSet)], flags.skip rest)
    | _, _ => (hyphens, text)
  if text.isEmpty then none else some (negated, items, text)

def readNamed? (flags : Flags) (text : List Char) : Option (Option CharSet × List Char) :=
  match text with
  | ':' :: rest =>
    let (negated, rest) := match rest with
      | '^' :: rest => (true, rest)
      | _ => (false, rest)
    match rest.dropWhile (· ≠ ':') with
    | ':' :: ']' :: behind =>
      (Named.asciiClass? (String.ofList (rest.takeWhile (· ≠ ':')))).map fun set =>
        (Primitive.negateSet? flags negated (Primitive.foldSet flags (.listed set)), behind)
    | _ => none
  | _ => none

def readItem? (flags : Flags) : List Char → Option (Primitive × List Char)
  | [] => none
  | '\\' :: rest => Primitive.readEscape? flags rest
  | c :: rest => some (.literal c false, rest)

def literal? (flags : Flags) : Primitive → Option Char
  | .literal c _ => if flags.unicode || c ≤ '\x7f' then some c else none
  | _ => none

def itemSet? (flags : Flags) (item : Primitive) : Option CharSet :=
  match item with
  | .literal _ _ => (literal? flags item).map .single
  | _ => item.set? flags

def peek (flags : Flags) (text : List Char) : Option Char :=
  if flags.ignoreSpace then
    match text.dropWhile Named.isBlankChar with
    | '#' :: rest => (rest.dropWhile Named.isBlankChar).head?
    | rest => rest.head?
  else text.head?

def readRange? (flags : Flags) (text : List Char) : Option (CharSet × List Char) := do
  let (first, rest) ← readItem? flags text
  match flags.skip rest with
  | [] => none
  | '-' :: behind =>
    if peek flags behind = some ']' ∨ peek flags behind = some '-' then
      let set ← itemSet? flags first
      some (set, flags.skip rest)
    else
      let (last, rest) ← readItem? flags (flags.skip behind)
      let low ← literal? flags first
      let high ← literal? flags last
      if low ≤ high then some (.range low high, rest) else none
  | _ =>
    let set ← itemSet? flags first
    some (set, flags.skip rest)

def readBody? (flags : Flags) :
    Nat → List Frame → List (Nested CharSet) → List Char → Option (Nested CharSet × List Char)
  | 0, _, _, _ => none
  | fuel + 1, frames, items, text =>
    match flags.skip text with
    | [] => none
    | '[' :: rest =>
      match readNamed? flags rest with
      | some (some set, rest) => readBody? flags fuel frames (⟨set, 0⟩ :: items) rest
      | some (none, _) => none
      | none =>
        match readOpening? flags rest with
        | some (negated, inner, rest) =>
          readBody? flags fuel (.enclosing items negated :: frames) inner rest
        | none => none
    | ']' :: rest =>
      let (set, frames) := settle flags (unite items) frames
      match frames with
      | .enclosing outer negated :: frames =>
        match close? flags negated set with
        | some set =>
          if frames.isEmpty then some (set, rest)
          else readBody? flags fuel frames (set :: outer) rest
        | none => none
      | _ => none
    | '&' :: '&' :: rest =>
      let (set, frames) := settle flags (unite items) frames
      readBody? flags fuel (.left .inter set :: frames) [] rest
    | '-' :: '-' :: rest =>
      let (set, frames) := settle flags (unite items) frames
      readBody? flags fuel (.left .diff set :: frames) [] rest
    | '~' :: '~' :: rest =>
      let (set, frames) := settle flags (unite items) frames
      readBody? flags fuel (.left .symmDiff set :: frames) [] rest
    | text =>
      match readRange? flags text with
      | some (set, rest) => readBody? flags fuel frames (⟨set, 0⟩ :: items) rest
      | none => none

def read? (flags : Flags) (text : List Char) : Option (Nested CharSet × List Char) := do
  let (negated, items, rest) ← readOpening? flags text
  readBody? flags (rest.length + 1) [.enclosing [] negated] items rest

end Bracket

end RequestSpans.Pattern
