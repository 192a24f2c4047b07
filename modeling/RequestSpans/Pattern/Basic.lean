import RequestSpans.Pattern.Named

/-!
Patterns and what they match. A pattern relates positions of a text: it carries each position it
may start at to the positions it may end at (`reach`). A set of positions is a number: bit `i` is
set if position `i` belongs to the set (`testBit_positions`).
-/
set_option autoImplicit false

namespace RequestSpans.Pattern

inductive Assertion where
  | textStart
  | textEnd
  | lineStart
  | lineEnd
  | anyLineStart
  | anyLineEnd
  | wordBoundary (ascii : Bool)
  | notWordBoundary (ascii : Bool)
  | wordStart (ascii : Bool)
  | wordEnd (ascii : Bool)
  | wordStartHalf (ascii : Bool)
  | wordEndHalf (ascii : Bool)
deriving Repr, DecidableEq, Inhabited

structure Site where
  before? : Option Char
  after? : Option Char
deriving Repr, DecidableEq, Inhabited

namespace Site

def isWord (ascii : Bool) (c : Char) : Bool :=
  if ascii then Named.asciiWord.mem c.toNat else Named.isWordChar c

def wordBefore (site : Site) (ascii : Bool) : Bool := site.before?.any (isWord ascii)

def wordAfter (site : Site) (ascii : Bool) : Bool := site.after?.any (isWord ascii)

end Site

def Assertion.holds (site : Site) : Assertion → Bool
  | .textStart => site.before?.isNone
  | .textEnd => site.after?.isNone
  | .lineStart => site.before?.isNone || site.before? = some '\n'
  | .lineEnd => site.after?.isNone || site.after? = some '\n'
  | .anyLineStart =>
    site.before?.isNone || site.before? = some '\n'
      || (site.before? = some '\r' && site.after? ≠ some '\n')
  | .anyLineEnd =>
    site.after?.isNone || site.after? = some '\r'
      || (site.after? = some '\n' && site.before? ≠ some '\r')
  | .wordBoundary ascii => site.wordBefore ascii != site.wordAfter ascii
  | .notWordBoundary ascii => site.wordBefore ascii == site.wordAfter ascii
  | .wordStart ascii => !site.wordBefore ascii && site.wordAfter ascii
  | .wordEnd ascii => site.wordBefore ascii && !site.wordAfter ascii
  | .wordStartHalf ascii => !site.wordBefore ascii
  | .wordEndHalf ascii => !site.wordAfter ascii

end Pattern

-- `repeated` takes the pattern at least `least` and at most `most` times, if
-- there is a most. What a group captures is told to nobody, but it takes room.
inductive Pattern where
  | empty
  | one (set : Pattern.CharSet)
  | assert (assertion : Pattern.Assertion)
  | cat (a b : Pattern)
  | alt (a b : Pattern)
  | repeated (a : Pattern) (least : Nat) (most? : Option Nat)
  | captured (a : Pattern)
deriving Repr, Inhabited

namespace Pattern

def sitesFrom (before? : Option Char) : List Char → List Site
  | [] => [⟨before?, none⟩]
  | c :: rest => ⟨before?, some c⟩ :: sitesFrom (some c) rest

def sites (text : List Char) : List Site := sitesFrom none text

def iterate {α : Type} [DecidableEq α] (step : α → α) : Nat → α → α
  | 0, a => a
  | count + 1, a =>
    let b := step a
    if b = a then a else iterate step count b

def positions (p : Site → Bool) : List Site → Nat
  | [] => 0
  | site :: rest => 2 * positions p rest + if p site then 1 else 0

theorem testBit_positions (p : Site → Bool) (sites : List Site) (i : Nat) :
    (positions p sites).testBit i = (sites[i]?).any p := by
  induction sites generalizing i with
  | nil => simp [positions]
  | cons site rest ih =>
    have half : (2 * positions p rest + if p site then 1 else 0) / 2 = positions p rest := by
      split <;> omega
    cases i with
    | zero =>
      by_cases h : p site = true
      · simp [positions, h, Nat.testBit_zero]
      · simp [positions, h, Nat.testBit_zero]
    | succ i =>
      rw [positions, Nat.testBit_succ, half, ih]
      simp

structure Index where
  sites : List Site
  occurrences : List (Char × Nat)

namespace Index

def ofText (text : List Char) : Index :=
  let sites := Pattern.sites text
  ⟨sites, text.eraseDups.map fun c => (c, positions (fun site => site.after? = some c) sites)⟩

def before (index : Index) (set : CharSet) : Nat :=
  index.occurrences.foldl (fun found (c, places) =>
    if set.mem c.toNat then found ||| places else found) 0

end Index

-- A pattern on a text: of each part that depends on the text it holds the
-- positions where that part applies.
inductive Placed where
  | empty
  | one (places : Nat)
  | assert (places : Nat)
  | cat (a b : Placed)
  | alt (a b : Placed)
  | repeated (a : Placed) (least : Nat) (most? : Option Nat)
deriving Repr, DecidableEq, Inhabited

def place (index : Index) : Pattern → Placed
  | .empty => .empty
  | .one set => .one (index.before set)
  | .assert assertion => .assert (positions (fun site => assertion.holds site) index.sites)
  | .cat a b => .cat (a.place index) (b.place index)
  | .alt a b => .alt (a.place index) (b.place index)
  | .repeated a least most? => .repeated (a.place index) least most?
  | .captured a => a.place index

-- The positions a match may end at, when it starts at a marked one; `count` is
-- the number of positions in the text.
def Placed.reach (count : Nat) : Placed → Nat → Nat
  | .empty, marked => marked
  | .one places, marked => (marked &&& places) <<< 1
  | .assert places, marked => marked &&& places
  | .cat a b, marked => b.reach count (a.reach count marked)
  | .alt a b, marked => a.reach count marked ||| b.reach count marked
  | .repeated a least most?, marked =>
    let required := iterate (a.reach count) least marked
    let further := match most? with
      | some most => most - least
      | none => count
    iterate (fun marked => marked ||| a.reach count marked) further required

def reach (pattern : Pattern) (index : Index) (marked : Nat) : Nat :=
  (pattern.place index).reach index.sites.length marked

def matchesIn (pattern : Pattern) (text : String) : Bool :=
  let index := Index.ofText text.toList
  pattern.reach index (positions (fun _ => true) index.sites) ≠ 0

end Pattern

end RequestSpans
