/-!
# Shortest decimals of doubles

A double stands for every real number that rounds to it, an interval around `m * 2 ^ q`. The
shortest decimal of a double is the one with the fewest digits in that interval, and of two such
the nearer. On a decimal grid that has a point in the interval, one of the two neighbours of the
value is in it, so it is enough to try those on ever finer grids.
-/
namespace ManifestLint.Text

/-- The number `digits * 10 ^ exponent`. -/
structure Decimal where
  digits : Nat
  exponent : Int
  deriving DecidableEq, Repr

/-- A positive finite double `significand * 2 ^ exponent`. The gap to the next smaller double is
half as wide when the significand is the least one of its exponent. -/
structure Binary where
  significand : Nat
  exponent : Int
  narrowBelow : Bool
  deriving DecidableEq, Repr

namespace Binary

/-- The magnitude whose double has the given bits, the sign left out. -/
def ofBits (bits : UInt64) : Binary :=
  let fraction : Nat := bits.toNat % Nat.pow 2 52
  let exponent : Nat := bits.toNat / Nat.pow 2 52 % Nat.pow 2 11
  if exponent = 0 then ⟨fraction, -1074, false⟩
  else ⟨fraction + Nat.pow 2 52, (exponent : Int) - 1075, fraction = 0 && 1 < exponent⟩

/-- The value, the upper and the lower end of the interval as fractions of one denominator. -/
def fractions (b : Binary) : Nat × Nat × Nat × Nat :=
  let value := 4 * b.significand
  let above := value + 2
  let below := if b.narrowBelow then value - 1 else value - 2
  let scale := b.exponent - 2
  if 0 ≤ scale then
    let power := Nat.pow 2 scale.toNat
    (value * power, above * power, below * power, 1)
  else (value, above, below, Nat.pow 2 (-scale).toNat)

/-- The power of ten just above a positive fraction: the least `k` of at most `fuel` candidates
from `k` on with `num / den < 10 ^ k`. -/
def magnitude (num den : Nat) : Nat → Int → Int
  | 0, k => k
  | fuel + 1, k =>
    let below :=
      if 0 ≤ k then num < den * Nat.pow 10 k.toNat else num * Nat.pow 10 (-k).toNat < den
    if below then k else magnitude num den fuel (k + 1)

/-- The point of the grid of multiples of `10 ^ exponent` that stands for the double, if one does:
a neighbour of the value inside the interval, the nearer if both are. The ends of the interval
belong to it when the significand is even. -/
def pointOnGrid? (b : Binary) (exponent : Int) : Option Nat :=
  let (value, above, below, den) := b.fractions
  let (scaleUp, scaleDown) :=
    if 0 ≤ exponent then (Nat.pow 10 exponent.toNat, 1) else (1, Nat.pow 10 (-exponent).toNat)
  let unit := den * scaleUp
  let value := value * scaleDown
  let above := above * scaleDown
  let below := below * scaleDown
  let inside (n : Nat) : Bool :=
    if b.significand % 2 = 0 then below ≤ n * unit && n * unit ≤ above
    else below < n * unit && n * unit < above
  let lower := value / unit
  let upper := lower + 1
  match decide (0 < lower) && inside lower, inside upper with
  | true, true =>
    let left := value - lower * unit
    let right := upper * unit - value
    if left < right then some lower
    else if right < left then some upper
    else if lower % 2 = 0 then some lower else some upper
  | true, false => some lower
  | false, true => some upper
  | false, false => none

/-- The first hit on the grids with one digit, two digits and so on; seventeen always suffice. Ten
units of the first grid are one digit of the next power. -/
def refine (b : Binary) (magnitude : Int) : Nat → Nat → Decimal
  | 0, _ => ⟨0, 0⟩
  | fuel + 1, count =>
    match b.pointOnGrid? (magnitude - count) with
    | some n => if n = 10 then ⟨1, magnitude - count + 1⟩ else ⟨n, magnitude - count⟩
    | none => refine b magnitude fuel (count + 1)

/-- The shortest decimal of a positive double. -/
def shortest (b : Binary) : Decimal :=
  if b.significand = 0 then ⟨0, 0⟩
  else
    let (value, _, _, den) := b.fractions
    b.refine (magnitude value den 700 (-330)) 17 1

end Binary

end ManifestLint.Text
