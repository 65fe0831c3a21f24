import Dimensional.Exponents
import Dimensional.Scalar

/-!
Units. A unit has a dimension and a ratio that turns raw numbers in the unit into base values:
a scale unit multiplies by its factor, an affine unit adds its offset and then multiplies.
Scale units compose: the factor of a product is the product of the factors, of a quotient the
quotient, and the dimensions add or subtract. In an element type other than double the factor
and the offset are first rounded to that type, so the arithmetic happens in the element type.
-/

namespace Dimensional

/-- How raw numbers in a unit become base values. -/
inductive Ratio where
  /-- `base = raw · factor`. -/
  | scale (factor : Double)
  /-- `base = (raw + offset) · factor`. -/
  | affine (offset factor : Double)
  deriving Inhabited, Repr

namespace Ratio

/-- The factor of either kind. -/
def factor : Ratio → Double
  | .scale f => f
  | .affine _ f => f

/-- Whether the ratio carries an offset. -/
def isAffine : Ratio → Bool
  | .scale _ => false
  | .affine _ _ => true

/-- Raw number in the unit to base value. -/
def toBase {α : Type} [Scalar α] (r : Ratio) (raw : α) : α :=
  match r with
  | .scale f => raw * Scalar.ofDouble f
  | .affine o f => (raw + Scalar.ofDouble o) * Scalar.ofDouble f

/-- Base value to raw number in the unit. -/
def toRaw {α : Type} [Scalar α] (r : Ratio) (base : α) : α :=
  match r with
  | .scale f => base / Scalar.ofDouble f
  | .affine o f => base / Scalar.ofDouble f - Scalar.ofDouble o

/-- IEEE equality of the numbers of two ratios of the same kind. -/
def sameAs : Ratio → Ratio → Bool
  | .scale f, .scale g => f == g
  | .affine o f, .affine p g => o == p && f == g
  | _, _ => false

/-- Debug text: `Scale { factor: 1000.0 }` or `Affine { offset: 459.67, factor: 0.5 }`. -/
def debugText : Ratio → String
  | .scale f => "Scale \x7b factor: " ++ Scalar.debugText f ++ " \x7d"
  | .affine o f =>
    "Affine \x7b offset: " ++ Scalar.debugText o ++ ", factor: " ++ Scalar.debugText f ++ " \x7d"

end Ratio

/-- A unit: its dimension and its ratio. -/
structure UnitDef where
  exponents : Exponents
  ratio : Ratio
  deriving Inhabited, Repr

namespace UnitDef

/-- A scale unit of the given dimension and factor. -/
def scaled (exponents : Exponents) (factor : Double) : UnitDef := ⟨exponents, .scale factor⟩

/-- An affine unit of the given dimension, offset and factor. -/
def affine (exponents : Exponents) (offset factor : Double) : UnitDef :=
  ⟨exponents, .affine offset factor⟩

/-- The factor of the unit. -/
def factor (u : UnitDef) : Double := u.ratio.factor

/-- The product unit. -/
def times (a b : UnitDef) : UnitDef := scaled (a.exponents.add b.exponents) (a.factor * b.factor)

/-- The quotient unit. -/
def per (a b : UnitDef) : UnitDef := scaled (a.exponents.sub b.exponents) (a.factor / b.factor)

/-- The unit squared. -/
def squared (a : UnitDef) : UnitDef := scaled (a.exponents.add a.exponents) (a.factor * a.factor)

/-- The unit cubed. -/
def cubed (a : UnitDef) : UnitDef :=
  scaled ((a.exponents.add a.exponents).add a.exponents) (a.factor * a.factor * a.factor)

/-- The reciprocal unit. -/
def inverse (a : UnitDef) : UnitDef := scaled (Exponents.dimensionless.sub a.exponents) (1.0 / a.factor)

/-- The same dimension, `k` times larger. -/
def scaledBy (a : UnitDef) (k : Double) : UnitDef := scaled a.exponents (a.factor * k)

/-- The base value of `raw` of this unit. -/
def of {α : Type} [Scalar α] (u : UnitDef) (raw : α) : α := u.ratio.toBase raw

/-- The raw number of this unit for the base value `base`. -/
def valueOf {α : Type} [Scalar α] (u : UnitDef) (base : α) : α := u.ratio.toRaw base

/-- Debug text: `Unit { ratio: Scale { factor: 1000.0 }, dimension: L·T⁻¹ }`. -/
def debugText (u : UnitDef) : String :=
  "Unit \x7b ratio: " ++ u.ratio.debugText ++ ", dimension: " ++ u.exponents.render ++ " \x7d"

end UnitDef

end Dimensional
