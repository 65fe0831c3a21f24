import Dimensional.Payload
import Dimensional.Unit

/-!
Quantities: a payload in base units together with its dimension, which is part of the type.
Sums and differences need one dimension; products and quotients add and subtract the
exponents, and powers and roots multiply and divide them. Every operation acts component by
component on the payload, with the element operation of `Scalar`; the vector ones (scalar
product, norm, vector product) are built from element arithmetic in a fixed order.
-/

namespace Dimensional

/-- A quantity of dimension `d` whose payload `value` is in base units. -/
structure Quantity (d : Exponents) (P : Type) where
  value : P
  deriving Repr, Inhabited

namespace Exponents

/-- Exponent-wise product with an integer, wrapping; the dimension of a power. -/
def scale (e : Exponents) (n : Int32) : Exponents :=
  ⟨e.length * n, e.mass * n, e.time * n, e.temperature * n, e.angle * n⟩

/-- Exponent-wise quotient by a non-zero integer; the dimension of a root. -/
def divide (e : Exponents) (n : Int32) : Exponents :=
  ⟨e.length / n, e.mass / n, e.time / n, e.temperature / n, e.angle / n⟩

end Exponents

namespace Quantity

variable {d e : Exponents} {P α : Type} [Scalar α] [Payload P α]

/-- Applies an element operation to each component. -/
def map (f : α → α) (q : Quantity d P) : Quantity d P := ⟨Payload.map f q.value⟩

/-- Combines matching components with an element operation. -/
def zipWith (f : α → α → α) (a b : Quantity d P) : Quantity d P :=
  ⟨Payload.zipWith f a.value b.value⟩

/-- Every component zero. -/
def zero : Quantity d P := ⟨Payload.splat Scalar.zero⟩

/-- Every component NaN. -/
def nan : Quantity d P := ⟨Payload.splat Scalar.nan⟩

/-- Every component positive infinity. -/
def infinity : Quantity d P := ⟨Payload.splat Scalar.infinity⟩

def add (a b : Quantity d P) : Quantity d P := zipWith (· + ·) a b
def sub (a b : Quantity d P) : Quantity d P := zipWith (· - ·) a b
def neg (a : Quantity d P) : Quantity d P := map (- ·) a

/-- Component-wise absolute value. -/
def abs (q : Quantity d P) : Quantity d P := map Scalar.abs q

/-- Component-wise sign, a dimensionless payload. -/
def signum (q : Quantity d P) : P := Payload.map Scalar.signum q.value

/-- Whether some component is NaN. -/
def isNaN (q : Quantity d P) : Bool := Payload.any Scalar.isNaN q.value

/-- Whether some component is infinite. -/
def isInfinite (q : Quantity d P) : Bool := Payload.any Scalar.isInf q.value

/-- Whether every component is finite. -/
def isFinite (q : Quantity d P) : Bool := !Payload.any (fun x => !Scalar.isFinite x) q.value

/-- Component-wise minimum, passing over NaN. -/
def min (a b : Quantity d P) : Quantity d P := zipWith Scalar.min a b

/-- Component-wise maximum, passing over NaN. -/
def max (a b : Quantity d P) : Quantity d P := zipWith Scalar.max a b

/-- Each component brought into `[lo, hi]`: the maximum with `lo`, then the minimum with `hi`. -/
def clamp (q lo hi : Quantity d P) : Quantity d P := (q.max lo).min hi

/-- Linear interpolation, `a + (b - a) · t` per component. -/
def lerp (a b : Quantity d P) (t : α) : Quantity d P := zipWith (fun x y => x + (y - x) * t) a b

/-- IEEE equality of every pair of components. -/
def eq (a b : Quantity d P) : Bool := Payload.all₂ Scalar.eq a.value b.value

/-- Whether every component equals zero; both zeros count. -/
def isZero (q : Quantity d P) : Bool := q.eq zero

/-- The IEEE order of two scalar quantities: none when one of them is NaN. -/
def compare? (a b : Quantity d α) : Option Ordering := Scalar.compare? a.value b.value

/-- Each component times `s`. -/
def scale (q : Quantity d P) (s : α) : Quantity d P := map (· * s) q

/-- Each component divided by `s`. -/
def divScalar (q : Quantity d P) (s : α) : Quantity d P := map (· / s) q

/-- The product with a scalar quantity: each component times it. -/
def scaleBy (s : Quantity e α) (q : Quantity d P) : Quantity (e.add d) P := ⟨(q.scale s.value).value⟩

/-- Component-wise product. -/
def mul (a : Quantity d P) (b : Quantity e P) : Quantity (d.add e) P :=
  ⟨Payload.zipWith (· * ·) a.value b.value⟩

/-- Component-wise quotient. -/
def div (a : Quantity d P) (b : Quantity e P) : Quantity (d.sub e) P :=
  ⟨Payload.zipWith (· / ·) a.value b.value⟩

/-- Each component divided by a scalar quantity. -/
def divBy (q : Quantity d P) (s : Quantity e α) : Quantity (d.sub e) P := ⟨(q.divScalar s.value).value⟩

/-- A scalar divided by a scalar quantity. -/
def inverseScaled (s : α) (q : Quantity d α) : Quantity (Exponents.dimensionless.sub d) α :=
  ⟨s / q.value⟩

/-- The `n`-th power of each component. -/
def powi (q : Quantity d P) (n : Int32) : Quantity (d.scale n) P :=
  ⟨Payload.map (Scalar.powi · n.toInt) q.value⟩

/-- The `n`-th root of each component, for `n ≠ 0`. -/
def root (q : Quantity d P) (n : Int32) : Quantity (d.divide n) P :=
  ⟨Payload.map (Scalar.nthRoot · n.toInt) q.value⟩

/-- The sum of a list, folded from zero. -/
def sum (qs : List (Quantity d P)) : Quantity d P := qs.foldl add zero

/-- The quantity with each component converted to another element type; none if the target
shape has another number of components. -/
def cast {Q β : Type} [Scalar β] [Payload Q β] (q : Quantity d P) : Option (Quantity d Q) :=
  (Payload.ofList? ((Payload.toList q.value).map fun x => Scalar.ofDouble (Scalar.toDouble x))).map
    Quantity.mk

/-- The debug text: `Quantity(<payload> <dimension>)`. -/
def debugText (q : Quantity d P) : String :=
  "Quantity(" ++ Payload.debugText q.value ++ " " ++ d.render ++ ")"

/-- The display text of the payload. -/
def displayText (q : Quantity d P) (places : Option Nat) : String :=
  Payload.displayText q.value places

section Vectors

variable {P α : Type} [Scalar α] [VectorPayload P α]

/-- The scalar product; the dimensions add. -/
def dot (a : Quantity d P) (b : Quantity e P) : Quantity (d.add e) α :=
  ⟨VectorPayload.dot a.value b.value⟩

/-- The Euclidean length, the square root of the scalar product with itself. -/
def norm (q : Quantity d P) : Quantity d α := ⟨Scalar.sqrt (VectorPayload.dot q.value q.value)⟩

/-- Each component divided by the norm, a dimensionless payload. -/
def normalize (q : Quantity d P) : P :=
  let n := q.norm.value
  Payload.map (· / n) q.value

/-- The norm of the difference. -/
def distance (a b : Quantity d P) : Quantity d α := (a.sub b).norm

/-- The per-axis scalar quantities. -/
def axes (q : Quantity d P) : List (Quantity d α) := (Payload.toList q.value).map Quantity.mk

end Vectors

/-- The vector product; the dimensions add. -/
def cross (a : Quantity d (Vector3 α)) (b : Quantity e (Vector3 α)) :
    Quantity (d.add e) (Vector3 α) :=
  ⟨a.value.cross b.value⟩

/-- The two-vector of the first two axes. -/
def truncate (q : Quantity d (Vector3 α)) : Quantity d (Vector2 α) := ⟨q.value.truncate⟩

/-- The three-vector with a third axis appended. -/
def extend (q : Quantity d (Vector2 α)) (z : Quantity d α) : Quantity d (Vector3 α) :=
  ⟨q.value.extend z.value⟩

end Quantity

namespace UnitDef

variable {P α : Type} [Scalar α] [Payload P α]

/-- The quantity of raw numbers in the unit: each component converted to base units. -/
def ofPayload (u : UnitDef) (raw : P) : Quantity u.exponents P :=
  ⟨Payload.map u.ratio.toBase raw⟩

/-- The raw numbers in the unit of a quantity's payload. -/
def valueIn (u : UnitDef) (q : Quantity u.exponents P) : P := Payload.map u.ratio.toRaw q.value

end UnitDef

end Dimensional
