import Dimensional.Decimal.CubeRoot

/-!
Arithmetic on the bit patterns of a binary format as IEEE 754 defines it with rounding to
nearest, ties to even: the exact result of an operation on the values of its operands, rounded
once with `BinaryFormat.roundRatio`. A NaN operand or an invalid operation (`0 · ∞`, `∞ - ∞`,
`0 / 0`, `∞ / ∞`, the square root of a negative value) gives the format's default NaN, whose
payload nothing reads. An exact zero sum is `-0` only when both operands are `-0`. Comparisons
are false when an operand is NaN, and the two zeros are equal.
-/

namespace Dimensional
namespace Decimal

/-- `⌊√t⌋` found bit by bit: `r` holds the bits above `b + 1` decided so far. -/
def squareRootFrom (t : Nat) : (b r : Nat) → Nat
  | 0, r => if (r + 1) ^ (2 : Nat) ≤ t then r + 1 else r
  | b + 1, r =>
    let c := r + 2 ^ (b + 1)
    squareRootFrom t b (if c ^ (2 : Nat) ≤ t then c else r)

/-- The integer square root `⌊√t⌋`. -/
def squareRoot (t : Nat) : Nat := squareRootFrom t (t.log2 / 2 + 1) 0

namespace BinaryFormat

variable (f : BinaryFormat)

/-- Bits of the default NaN, which invalid operations give: sign and quiet bit set. -/
def defaultNaN : Nat := f.encodeInfinite true + 2 ^ (f.fractionWidth - 1)

/-- Bits of a signed zero. -/
def encodeZero (negative : Bool) : Nat := f.encodeFinite negative 0 f.leastExponent

/-- Whether the sign bit is set. -/
def signOf (bits : Nat) : Bool := bits / f.signWeight % 2 == 1

/-- The bits with the sign flipped. -/
def negate (bits : Nat) : Nat := if f.signOf bits then bits - f.signWeight else bits + f.signWeight

/-- The bits with the sign cleared. -/
def absolute (bits : Nat) : Nat := bits % f.signWeight

/-- Whether the bits are a NaN. -/
def isNaN (bits : Nat) : Bool :=
  match f.decode bits with
  | .nan => true
  | _ => false

/-- Whether the bits are an infinity. -/
def isInf (bits : Nat) : Bool :=
  match f.decode bits with
  | .infinite _ => true
  | _ => false

/-- Bits of the value nearest to `m · 2^e`, with the given sign. -/
def roundScaled (negative : Bool) (m : Nat) (e : Int) : Nat :=
  f.roundRatio negative (m * 2 ^ e.toNat) (2 ^ (-e).toNat)

/-- The product. -/
def mul (a b : Nat) : Nat :=
  match f.decode a, f.decode b with
  | .nan, _ | _, .nan => f.defaultNaN
  | .infinite s, .infinite t => f.encodeInfinite (s != t)
  | .infinite s, .finite t m _ | .finite t m _, .infinite s =>
    if m = 0 then f.defaultNaN else f.encodeInfinite (s != t)
  | .finite s m q, .finite t n r => f.roundScaled (s != t) (m * n) (q + r)

/-- The quotient; a finite non-zero value over a zero is the infinity of the joint sign. -/
def div (a b : Nat) : Nat :=
  match f.decode a, f.decode b with
  | .nan, _ | _, .nan | .infinite _, .infinite _ => f.defaultNaN
  | .infinite s, .finite t _ _ => f.encodeInfinite (s != t)
  | .finite s _ _, .infinite t => f.encodeZero (s != t)
  | .finite s m q, .finite t n r =>
    if n = 0 then if m = 0 then f.defaultNaN else f.encodeInfinite (s != t)
    else f.roundRatio (s != t) (m * 2 ^ (q - r).toNat) (n * 2 ^ (r - q).toNat)

/-- The signed integer `±m · 2^(q - e)`, for `e ≤ q`. -/
def alignedValue (negative : Bool) (m : Nat) (q e : Int) : Int :=
  let v : Int := (m * 2 ^ (q - e).toNat : Nat)
  if negative then -v else v

/-- The sum. Two finite values are brought to the lesser exponent and added as integers. -/
def add (a b : Nat) : Nat :=
  match f.decode a, f.decode b with
  | .nan, _ | _, .nan => f.defaultNaN
  | .infinite s, .infinite t => if s = t then f.encodeInfinite s else f.defaultNaN
  | .infinite s, .finite .. => f.encodeInfinite s
  | .finite .., .infinite t => f.encodeInfinite t
  | .finite s m q, .finite t n r =>
    let e := min q r
    let z := alignedValue s m q e + alignedValue t n r e
    if z = 0 then f.encodeZero (s && t) else f.roundScaled (decide (z < 0)) z.natAbs e

/-- The difference: the sum with the second operand negated. -/
def sub (a b : Nat) : Nat := f.add a (f.negate b)

/-- The square root. A positive value `m · 2^q` is written as `t · 2^(2e)` with an integer `t`
whose root has at least two bits more than the format keeps, so that `⌊√t⌋` and whether it is
exact decide the rounding, as for the cube root. -/
def sqrt (bits : Nat) : Nat :=
  match f.decode bits with
  | .nan => f.defaultNaN
  | .infinite negative => if negative then f.defaultNaN else bits
  | .finite negative m q =>
    if m = 0 then bits
    else if negative then f.defaultNaN
    else
      let e : Int := ((m.log2 : Int) + q - 2 * f.precision - 3) / 2
      let t := m * 2 ^ (q - 2 * e).toNat
      let r := squareRoot t
      let s := if r ^ (2 : Nat) = t then 0 else 1
      f.roundRatio false ((2 * r + s) * 2 ^ e.toNat) (2 * 2 ^ (-e).toNat)

/-- The bits below the sign, negated when the sign is set. On values other than NaN this
orders as the values do, and the two zeros meet at `0`. -/
def orderKey (bits : Nat) : Int :=
  if f.signOf bits then -(f.absolute bits : Int) else f.absolute bits

/-- IEEE `<`. -/
def lt (a b : Nat) : Bool := !f.isNaN a && !f.isNaN b && decide (f.orderKey a < f.orderKey b)

/-- IEEE `==`. -/
def eq (a b : Nat) : Bool := !f.isNaN a && !f.isNaN b && f.orderKey a == f.orderKey b

/-- Bits of the value of format `g` nearest to the value of `bits`; a NaN keeps its sign. -/
def convert (g : BinaryFormat) (bits : Nat) : Nat :=
  match f.decode bits with
  | .nan => g.encodeInfinite (f.signOf bits) + 2 ^ (g.fractionWidth - 1)
  | .infinite negative => g.encodeInfinite negative
  | .finite negative m q => g.roundScaled negative m q

/-- Bits of the value nearest to an integer. -/
def ofInt (i : Int) : Nat := f.roundRatio (decide (i < 0)) i.natAbs 1

end BinaryFormat

end Decimal
end Dimensional
