import Dimensional.Decimal.Layout
import Dimensional.Double

/-!
The element types of quantities: double and single precision binary floating point. `Scalar`
gathers what the library needs of them: IEEE arithmetic and comparison, the square root, the
cube root rounded once to the type, the library function `pow`, rounding a double into the type
and widening back, and the bits for writing values out. On top of it stand the operations whose
rule is the library's own: `powi` (square-and-multiply over the bits of the exponent), `nthRoot`,
`signum`, and `min` and `max` that pass over a NaN operand.
-/

namespace Dimensional

/-- A binary floating-point element type. -/
class Scalar (α : Type) extends Add α, Sub α, Mul α, Div α, Neg α where
  /-- The binary format of the type. -/
  format : Decimal.BinaryFormat
  /-- The name of the type in messages: `f64` or `f32`. -/
  typeName : String
  /-- The bit pattern of a value. -/
  toBits : α → Nat
  /-- The value of a bit pattern. -/
  ofBits : Nat → α
  /-- The value nearest to a double. -/
  ofDouble : Double → α
  /-- The exact double of a value. -/
  toDouble : α → Double
  sqrt : α → α
  cbrt : α → α
  pow : α → α → α
  abs : α → α
  /-- IEEE `<`, false when an operand is NaN. -/
  lt : α → α → Bool
  /-- IEEE `==`, false when an operand is NaN; the two zeros are equal. -/
  eq : α → α → Bool
  isNaN : α → Bool
  isInf : α → Bool

instance : Scalar Double where
  format := Decimal.BinaryFormat.double
  typeName := "f64"
  toBits := Double.toBits
  ofBits := Double.ofBits
  ofDouble x := x
  toDouble x := x
  sqrt := Double.sqrt
  cbrt x := Double.ofBits (Decimal.BinaryFormat.double.cbrt x.toBits)
  pow := Double.pow
  abs := Double.abs
  lt x y := decide (x < y)
  eq x y := x == y
  isNaN := Double.isNaN
  isInf := Double.isInf

instance : Scalar Single where
  format := Decimal.BinaryFormat.single
  typeName := "f32"
  toBits := Single.toBits
  ofBits := Single.ofBits
  ofDouble := Double.toSingle
  toDouble := Single.toDouble
  sqrt := Single.sqrt
  cbrt x := Single.ofBits (Decimal.BinaryFormat.single.cbrt x.toBits)
  pow := Single.pow
  abs := Single.abs
  lt x y := decide (x < y)
  eq x y := x == y
  isNaN := Single.isNaN
  isInf := Single.isInf

namespace Scalar

variable {α : Type} [Scalar α]

/-- The value of a natural number, through the nearest double. -/
def ofNat (n : Nat) : α := ofDouble (Double.ofNat n)

/-- Zero. -/
def zero : α := ofDouble 0.0

/-- One. -/
def one : α := ofDouble 1.0

/-- A quiet NaN. -/
def nan : α := ofDouble (0.0 / 0.0)

/-- Positive infinity. -/
def infinity : α := ofDouble (1.0 / 0.0)

/-- Whether the value is neither infinite nor NaN. -/
def isFinite (x : α) : Bool := !(isNaN x || isInf x)

/-- IEEE `>`. -/
def gt (x y : α) : Bool := lt y x

/-- IEEE `≤`. -/
def le (x y : α) : Bool := lt x y || eq x y

/-- The smaller operand; a NaN operand is passed over, and of two equal operands the first. -/
def min (x y : α) : α := if isNaN x then y else if lt y x then y else x

/-- The larger operand; a NaN operand is passed over, and of two equal operands the first. -/
def max (x y : α) : α := if isNaN x then y else if lt x y then y else x

/-- The IEEE order of two values: none when one of them is NaN. -/
def compare? (x y : α) : Option Ordering :=
  if lt x y then some .lt else if eq x y then some .eq else if lt y x then some .gt else none

/-- Whether the sign bit is set. -/
def signBit (x : α) : Bool := toBits x / (format α).signWeight % 2 == 1

/-- One with the sign of `x`, or NaN: `+0` gives `1` and `-0` gives `-1`. -/
def signum (x : α) : α := if isNaN x then x else if signBit x then -one else one

/-- Square and multiply: `r` collects `a^(2^i)` for each set bit `i` of `n`, lowest first. -/
def powAcc (r a : α) (n : Nat) : α :=
  let r := if n % 2 = 1 then r * a else r
  if n / 2 = 0 then r else powAcc r (a * a) (n / 2)
termination_by n
decreasing_by omega

/-- `x` to an integer power by square and multiply; a negative power is one over the
positive one. -/
def powi (x : α) (n : Int) : α :=
  let r := powAcc one x n.natAbs
  if n < 0 then one / r else r

/-- The `n`-th root of `x` (with `n ≠ 0`): the identity, `sqrt` and `cbrt` for one, two and
three; otherwise `x^(1/n)`, with `1/n` computed in the type, and for odd `n` a negative `x`
is the negative of the root of `-x`. -/
def nthRoot (x : α) (n : Int) : α :=
  if n = 1 then x
  else if n = 2 then sqrt x
  else if n = 3 then cbrt x
  else
    let e := one / ofDouble (Double.ofInt n)
    if n % 2 ≠ 0 ∧ lt x zero then -(pow (-x) e) else pow x e

/-- How debug text writes an element: shortest digits, positional from `1e-4` to below
`1e16` with `.0` kept, exponent form `1e16`, `1.5e-7` outside. -/
def debugLayout : Decimal.Layout := ⟨-4, 15, true, false, "NaN", "inf"⟩

/-- How plain display writes an element: shortest digits, always positional, no `.0`. -/
def displayLayout : Decimal.Layout := ⟨-400, 400, false, false, "NaN", "inf"⟩

/-- The debug text of a value. -/
def debugText (x : α) : String := debugLayout.render (format α) (toBits x)

/-- The display text of a value, with a fixed number of places when one is given. -/
def displayText (x : α) (places : Option Nat) : String :=
  match places with
  | none => displayLayout.render (format α) (toBits x)
  | some p => Decimal.renderPlaces displayLayout (format α) (toBits x) p

end Scalar

end Dimensional
