import Dimensional.Decimal.Nearest

/-!
Cube roots rounded once: `BinaryFormat.cbrt` gives the value of the format nearest to the real
cube root of a value. A finite non-zero value `m · 2^q` is written as `t · 2^(3e)` with an
integer `t` whose cube root has at least two bits more than the format keeps; the integer cube
root `r = ⌊∛t⌋` and whether it is exact then decide the rounding, since the value lies in
`[r, r + 1)` and no rounding boundary falls strictly inside that interval.
-/

namespace Dimensional
namespace Decimal

/-- `⌊∛t⌋` found bit by bit: `r` holds the bits above `b + 1` decided so far. -/
def cubeRootFrom (t : Nat) : (b r : Nat) → Nat
  | 0, r => if (r + 1) ^ (3 : Nat) ≤ t then r + 1 else r
  | b + 1, r =>
    let c := r + 2 ^ (b + 1)
    cubeRootFrom t b (if c ^ (3 : Nat) ≤ t then c else r)

/-- The integer cube root `⌊∛t⌋`. -/
def cubeRoot (t : Nat) : Nat := cubeRootFrom t (t.log2 / 3 + 1) 0

namespace BinaryFormat

/-- Bits of the cube root of the value denoted by `bits`, rounded to the nearest value of the
format; zeros, infinities and NaN are their own cube roots. -/
def cbrt (f : BinaryFormat) (bits : Nat) : Nat :=
  match f.decode bits with
  | .finite negative m q =>
    if m = 0 then bits
    else
      let e : Int := ((m.log2 : Int) + q - 3 * f.precision - 3) / 3
      let t := m * 2 ^ (q - 3 * e).toNat
      let r := cubeRoot t
      let s := if r ^ (3 : Nat) = t then 0 else 1
      f.roundRatio negative ((2 * r + s) * 2 ^ e.toNat) (2 * 2 ^ (-e).toNat)
  | _ => bits

end BinaryFormat

end Decimal
end Dimensional
