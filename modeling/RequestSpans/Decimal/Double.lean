set_option autoImplicit false

namespace RequestSpans.Decimal

structure Double where
  significand : Nat
  exponent : Int
deriving Repr, DecidableEq, Inhabited

structure Ratio where
  num : Nat
  den : Nat
deriving Repr, DecidableEq, Inhabited

namespace Ratio

def scale (r : Ratio) (base : Nat) (power : Int) : Ratio :=
  match power with
  | .ofNat n => ⟨r.num * base.pow n, r.den⟩
  | .negSucc n => ⟨r.num, r.den * base.pow (n + 1)⟩

def add (a b : Ratio) : Ratio := ⟨a.num * b.den + b.num * a.den, a.den * b.den⟩

def lt (a b : Ratio) : Bool := a.num * b.den < b.num * a.den

def le (a b : Ratio) : Bool := a.num * b.den ≤ b.num * a.den

def floor (r : Ratio) : Nat := r.num / r.den

def round (r : Ratio) : Nat :=
  let low := r.floor
  let twice := 2 * (r.num - low * r.den)
  if twice < r.den then low
  else if r.den < twice then low + 1
  else if low % 2 = 0 then low else low + 1

end Ratio

namespace Double

def leastExponent : Int := -1074

def leastSignificand : Nat := Nat.pow 2 52

def toRatio (x : Double) : Ratio := (⟨x.significand, 1⟩ : Ratio).scale 2 x.exponent

def exponentOf (r : Ratio) : Int :=
  let guess : Int := (Nat.log2 r.num : Int) - Nat.log2 r.den - 52
  let guess := if (r.scale 2 (-guess)).floor < leastSignificand then guess - 1 else guess
  max guess leastExponent

def ofRatio (r : Ratio) : Double :=
  if r.num = 0 then ⟨0, 0⟩
  else
    let exponent := exponentOf r
    let significand := (r.scale 2 (-exponent)).round
    if significand = 2 * leastSignificand then ⟨leastSignificand, exponent + 1⟩
    else ⟨significand, exponent⟩

-- Digits and the place of the point: `0.digits * 10 ^ point`.
structure Digits where
  digits : Nat
  count : Nat
  point : Int
deriving Repr, DecidableEq, Inhabited

def pointFrom (r : Ratio) : Nat → Int → Int
  | 0, point => point
  | fuel + 1, point =>
    if r.lt ((⟨1, 1⟩ : Ratio).scale 10 point) then point else pointFrom r fuel (point + 1)

def pointOf (r : Ratio) : Int :=
  let bits : Int := (Nat.log2 r.num : Int) - Nat.log2 r.den
  pointFrom r 8 (bits * 30103 / 100000 - 2)

def bounds (x : Double) : Ratio × Ratio × Bool :=
  let below := if x.significand = leastSignificand ∧ leastExponent < x.exponent then 1 else 2
  let unit (n : Nat) : Ratio := (⟨n, 1⟩ : Ratio).scale 2 (x.exponent - 2)
  (unit (4 * x.significand - below), unit (4 * x.significand + 2), x.significand % 2 = 0)

def within (x : Double) (r : Ratio) : Bool :=
  let (low, high, closed) := x.bounds
  if closed then low.le r && r.le high else low.lt r && r.lt high

-- The shortest digits among those of at least `count` places: of the two
-- neighbours on the grid the nearer that reads back.
def shortestFrom (x : Double) (point : Int) : Nat → Nat → Digits
  | 0, count => ⟨(x.toRatio.scale 10 (count - point)).round, count, point⟩
  | fuel + 1, count =>
    let scaled := x.toRatio.scale 10 (count - point)
    let low := scaled.floor
    let back (n : Nat) : Ratio := (⟨n, 1⟩ : Ratio).scale 10 (point - count)
    let lowHit := x.within (back low)
    let highHit := x.within (back (low + 1))
    if lowHit && highHit then ⟨scaled.round, count, point⟩
    else if lowHit then ⟨low, count, point⟩
    else if highHit then ⟨low + 1, count, point⟩
    else shortestFrom x point fuel (count + 1)

def shortest (x : Double) : Digits :=
  let found := shortestFrom x (pointOf x.toRatio) 17 1
  if found.digits = Nat.pow 10 found.count then ⟨1, 1, found.point + 1⟩ else found

end Double

structure Layout where
  positional : Int → Bool
  wholePoint : Bool

namespace Layout

def render (layout : Layout) (x : Double) : String :=
  if x.significand = 0 then if layout.wholePoint then "0.0" else "0"
  else
    let found := x.shortest
    let digits := (toString found.digits).toList
    let point := found.point
    if layout.positional point then
      if point ≤ 0 then "0." ++ String.ofList (List.replicate (-point).toNat '0' ++ digits)
      else if digits.length ≤ point.toNat then
        String.ofList (digits ++ List.replicate (point.toNat - digits.length) '0')
          ++ (if layout.wholePoint then ".0" else "")
      else
        String.ofList (digits.take point.toNat) ++ "." ++ String.ofList (digits.drop point.toNat)
    else
      let behind := digits.drop 1
      String.ofList (digits.take 1) ++ (if behind.isEmpty then "" else "." ++ String.ofList behind)
        ++ "e" ++ toString (point - 1)

end Layout

end RequestSpans.Decimal
