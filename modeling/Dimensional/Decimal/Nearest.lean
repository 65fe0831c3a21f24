import Dimensional.Decimal.Shortest

/-!
Rounding an exact value to a binary format: the nearest value of the format, a tie going to the
one with an even significand, and values beyond the greatest finite one going to infinity.
`BinaryFormat.roundRatio` rounds a positive rational; `BinaryFormat.roundDecimal` rounds
`n · 10^e`, which is how decimal text is read.
-/

namespace Dimensional
namespace Decimal

/-- `⌊log₂ (x / y)⌋` for positive `x` and `y`. -/
def floorLog2 (x y : Nat) : Int :=
  let d : Int := (x.log2 : Int) - y.log2
  let reaches := if 0 ≤ d then y * 2 ^ d.toNat ≤ x else y ≤ x * 2 ^ (-d).toNat
  if reaches then d else d - 1

namespace BinaryFormat

/-- Bits of the value of format `f` nearest to `x / y` (with `y > 0`), with the given sign. -/
def roundRatio (f : BinaryFormat) (negative : Bool) (x y : Nat) : Nat :=
  if x = 0 then f.encodeFinite negative 0 f.leastExponent
  else
    let q := max (floorLog2 x y - f.fractionWidth) f.leastExponent
    let num := x * 2 ^ (-q).toNat
    let den := y * 2 ^ q.toNat
    let m := nearerNeighbour (num / den) (num % den) den
    let (m, q) := if m = 2 ^ f.precision then (2 ^ f.fractionWidth, q + 1) else (m, q)
    if f.greatestExponent < q then f.encodeInfinite negative
    else f.encodeFinite negative m q

/-- Bits of the value of format `f` nearest to `n · 10^e`, with the given sign. Far outside
the range of every format the answer is zero or infinity without computing the power. -/
def roundDecimal (f : BinaryFormat) (negative : Bool) (n : Nat) (e : Int) : Nat :=
  let size : Int := (digitCount n : Int) + e
  if n = 0 ∨ size < -400 then f.encodeFinite negative 0 f.leastExponent
  else if 400 < size then f.encodeInfinite negative
  else f.roundRatio negative (n * 10 ^ e.toNat) (10 ^ (-e).toNat)

end BinaryFormat

end Decimal
end Dimensional
