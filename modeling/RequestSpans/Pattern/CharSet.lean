import RequestSpans.Pattern.Ranges
import RequestSpans.Pattern.Unicode.Folding

set_option autoImplicit false

namespace RequestSpans.Pattern

inductive CharSet where
  | listed (ranges : Ranges)
  | union (a b : CharSet)
  | inter (a b : CharSet)
  | diff (a b : CharSet)
  | symmDiff (a b : CharSet)
  | compl (a : CharSet)
  | folded (a : CharSet)
  | asciiFolded (a : CharSet)
deriving Repr, Inhabited

def foldings : List (Nat × Nat) :=
  pairUp ((Ranges.read Unicode.foldingPairs).map (·.1))
where
  pairUp : List Nat → List (Nat × Nat)
    | a :: b :: rest => (a, b) :: pairUp rest
    | _ => []

def simpleFold (c : Nat) : Nat :=
  match foldings.find? fun pair => pair.1 = c with
  | some (_, folded) => folded
  | none => c

def caseVariants (c : Nat) : List Nat :=
  let folded := simpleFold c
  folded :: (foldings.filter fun pair => pair.2 = folded).map (·.1)

def swapAsciiCase (c : Nat) : Nat :=
  if 65 ≤ c ∧ c ≤ 90 then c + 32 else if 97 ≤ c ∧ c ≤ 122 then c - 32 else c

namespace CharSet

def mem : CharSet → Nat → Bool
  | .listed table, c => table.mem c
  | .union a b, c => a.mem c || b.mem c
  | .inter a b, c => a.mem c && b.mem c
  | .diff a b, c => a.mem c && !b.mem c
  | .symmDiff a b, c => a.mem c != b.mem c
  | .compl a, c => !a.mem c
  | .folded a, c => (caseVariants c).any a.mem
  | .asciiFolded a, c => a.mem c || a.mem (swapAsciiCase c)

def none : CharSet := .listed []

def all : CharSet := .compl none

def single (c : Char) : CharSet := .listed [(c.toNat, c.toNat)]

def range (low high : Char) : CharSet := .listed [(low.toNat, high.toNat)]

def unions (sets : List CharSet) : CharSet := sets.foldr .union none

end CharSet

end RequestSpans.Pattern
