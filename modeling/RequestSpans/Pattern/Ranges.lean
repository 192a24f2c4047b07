set_option autoImplicit false

namespace RequestSpans.Pattern

abbrev Ranges := List (Nat × Nat)

namespace Ranges

def mem : Ranges → Nat → Bool
  | [], _ => false
  | (low, high) :: rest, c => if c < low then false else c ≤ high || mem rest c

def absorb (low high : Nat) : Ranges → Ranges
  | [] => [(low, high)]
  | (next, last) :: rest =>
    if next ≤ high + 1 then absorb low (max high last) rest else (low, high) :: (next, last) :: rest

def union (a b : Ranges) : Ranges :=
  (List.merge a b fun x y => x.1 ≤ y.1).foldr (fun range rest => absorb range.1 range.2 rest) []

def unions (sets : List Ranges) : Ranges := sets.foldr union []

def hexValue (c : Char) : Nat :=
  if c ≤ '9' then c.toNat - '0'.toNat else c.toNat - 'A'.toNat + 10

def readFrom : List Char → Option Nat → Option Nat → Ranges
  | [], low?, number? => flush low? number?
  | ' ' :: rest, low?, number? | '\n' :: rest, low?, number? =>
    flush low? number? ++ readFrom rest none none
  | '-' :: rest, _, number? => readFrom rest number? none
  | c :: rest, low?, number? => readFrom rest low? (some (number?.getD 0 * 16 + hexValue c))
where
  flush : Option Nat → Option Nat → Ranges
    | some low, some high => [(low, high)]
    | none, some single => [(single, single)]
    | _, none => []

def read (text : String) : Ranges := readFrom text.toList none none

end Ranges

structure Table where
  names : List String
  text : String

namespace Table

def find? (tables : List Table) (name : String) : Option Ranges :=
  (tables.find? fun table => table.names.contains name).map fun table => Ranges.read table.text

end Table

end RequestSpans.Pattern
