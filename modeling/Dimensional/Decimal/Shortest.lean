import Dimensional.Decimal.Binary

/-!
Shortest decimal digits of a binary value. A finite positive value `m · 2^q` owns the interval
of reals that round to it; its ends lie halfway to the neighbouring values and belong to it
exactly when `m` is even. `shortest` tries the decimal grids `10^k` with one, two, three, …
significant digits and stops at the first grid with a point in that interval; of the value's two
neighbours on that grid it takes the nearer one that lies inside, a tie going to the even one.
All arithmetic is exact on natural numbers.
-/

namespace Dimensional
namespace Decimal

/-- Number of decimal digits of `n` (one for zero). -/
def digitCount (n : Nat) : Nat :=
  if n < 10 then 1 else digitCount (n / 10) + 1
termination_by n
decreasing_by omega

/-- `⌊log₁₀ (x / y)⌋` for positive `x` and `y`. -/
def floorLog10 (x y : Nat) : Int :=
  if y ≤ x then ((digitCount (x / y) - 1 : Nat) : Int)
  else -((digitCount ((y + x - 1) / x - 1) : Nat) : Int)

/-- Numerator and denominator of `a · 2^s / 10^k`. -/
def scaledRatio (a : Nat) (s k : Int) : Nat × Nat :=
  (a * 2 ^ s.toNat * 10 ^ (-k).toNat, 2 ^ (-s).toNat * 10 ^ k.toNat)

/-- Of `t` and `t + 1`, the one nearer to `t + r / d`; a tie goes to the even one. -/
def nearerNeighbour (t r d : Nat) : Nat :=
  if 2 * r < d then t else if d < 2 * r then t + 1 else if t % 2 = 0 then t else t + 1

/-- Removes trailing zeros: `d · 10^k` as `d' · 10^k'` with `d'` not a multiple of ten. -/
def dropTrailingZeros (d : Nat) (k : Int) : Nat × Int :=
  if h : d ≠ 0 ∧ d % 10 = 0 then dropTrailingZeros (d / 10) (k + 1) else (d, k)
termination_by d
decreasing_by omega

/-- The interval owned by `m · 2^q`, in units of `2^(q-2)`: its low end, its high end, and
whether the ends belong to it. Below a power of two the lower neighbour is twice as close. -/
def roundingInterval (f : BinaryFormat) (m : Nat) (q : Int) : Nat × Nat × Bool :=
  (if m = 2 ^ f.fractionWidth ∧ f.leastExponent < q then 4 * m - 1 else 4 * m - 2,
    4 * m + 2, m % 2 == 0)

/-- The search over grids, from `n` significant digits on; `fuel` bounds the number of grids.
The last grid tried answers with the value's nearer neighbour. -/
def searchGrids (m : Nat) (q e10 : Int) (lo hi : Nat) (inclusive : Bool) :
    (fuel n : Nat) → Nat × Int
  | 0, n =>
    let k := e10 + 1 - n
    let (v, den) := scaledRatio (4 * m) (q - 2) k
    (nearerNeighbour (v / den) (v % den) den, k)
  | fuel + 1, n =>
    let k := e10 + 1 - n
    let (v, den) := scaledRatio (4 * m) (q - 2) k
    let low := (scaledRatio lo (q - 2) k).1
    let high := (scaledRatio hi (q - 2) k).1
    let first := if inclusive then (low + den - 1) / den else low / den + 1
    let last := if inclusive then high / den else (high - 1) / den
    if first ≤ last then
      let t := v / den
      let near := nearerNeighbour t (v % den) den
      let pick := if first ≤ near ∧ near ≤ last then near else if near = t then t + 1 else t
      (pick, k)
    else searchGrids m q e10 lo hi inclusive fuel (n + 1)

/-- The shortest decimal `d · 10^k` that rounds to the positive value `m · 2^q` of format `f`,
with `d` not a multiple of ten. -/
def shortest (f : BinaryFormat) (m : Nat) (q : Int) : Nat × Int :=
  let (lo, hi, inclusive) := roundingInterval f m q
  let e10 := floorLog10 (m * 2 ^ q.toNat) (2 ^ (-q).toNat)
  let (d, k) := searchGrids m q e10 lo hi inclusive f.precision 1
  dropTrailingZeros d k

end Decimal
end Dimensional
