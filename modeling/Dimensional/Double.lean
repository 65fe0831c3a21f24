import Dimensional.Decimal.Arithmetic

/-!
Double and single precision values, each held as its bit pattern. Their arithmetic and
comparisons are those of `Decimal.BinaryFormat` on the bits, so that every operation is its
exact result rounded once and proofs can open it. A literal is its decimal value rounded once.
Only the library function `pow` is the platform's, and it stays opaque.
-/

namespace Dimensional

open Decimal

/-- A double precision value. -/
structure Double where
  bits : UInt64
  deriving Inhabited

/-- A single precision value. -/
structure Single where
  bits : UInt32
  deriving Inhabited

namespace Double

/-- The value with the given bits (taken modulo `2^64`). -/
def ofBits (n : Nat) : Double := ⟨n.toUInt64⟩

/-- The bits of a value. -/
def toBits (x : Double) : Nat := x.bits.toNat

instance : Add Double := ⟨fun x y => ofBits (BinaryFormat.double.add x.toBits y.toBits)⟩
instance : Sub Double := ⟨fun x y => ofBits (BinaryFormat.double.sub x.toBits y.toBits)⟩
instance : Mul Double := ⟨fun x y => ofBits (BinaryFormat.double.mul x.toBits y.toBits)⟩
instance : Div Double := ⟨fun x y => ofBits (BinaryFormat.double.div x.toBits y.toBits)⟩
instance : Neg Double := ⟨fun x => ofBits (BinaryFormat.double.negate x.toBits)⟩

/-- The value nearest to a natural number. -/
def ofNat (n : Nat) : Double := ofBits (BinaryFormat.double.roundRatio false n 1)

/-- The value nearest to an integer. -/
def ofInt (i : Int) : Double := ofBits (BinaryFormat.double.ofInt i)

instance {n : Nat} : OfNat Double n := ⟨ofNat n⟩

instance : OfScientific Double :=
  ⟨fun m negative e => ofBits (BinaryFormat.double.roundDecimal false m (if negative then -e else e))⟩

instance : LT Double := ⟨fun x y => BinaryFormat.double.lt x.toBits y.toBits = true⟩

instance (x y : Double) : Decidable (x < y) :=
  inferInstanceAs (Decidable (BinaryFormat.double.lt x.toBits y.toBits = true))

instance : BEq Double := ⟨fun x y => BinaryFormat.double.eq x.toBits y.toBits⟩

instance : Repr Double := ⟨fun x _ => "Double.ofBits " ++ repr x.toBits⟩

def isNaN (x : Double) : Bool := BinaryFormat.double.isNaN x.toBits
def isInf (x : Double) : Bool := BinaryFormat.double.isInf x.toBits

/-- Whether the value is neither infinite nor NaN. -/
def isFinite (x : Double) : Bool := !(x.isNaN || x.isInf)

def sqrt (x : Double) : Double := ofBits (BinaryFormat.double.sqrt x.toBits)
def abs (x : Double) : Double := ofBits (BinaryFormat.double.absolute x.toBits)

/-- The platform's `pow`. -/
def pow (x y : Double) : Double :=
  ⟨(Float.pow (Float.ofBits x.bits) (Float.ofBits y.bits)).toBits⟩

/-- The single nearest to the value. -/
def toSingle (x : Double) : Single := ⟨(BinaryFormat.double.convert .single x.toBits).toUInt32⟩

end Double

namespace Single

/-- The value with the given bits (taken modulo `2^32`). -/
def ofBits (n : Nat) : Single := ⟨n.toUInt32⟩

/-- The bits of a value. -/
def toBits (x : Single) : Nat := x.bits.toNat

instance : Add Single := ⟨fun x y => ofBits (BinaryFormat.single.add x.toBits y.toBits)⟩
instance : Sub Single := ⟨fun x y => ofBits (BinaryFormat.single.sub x.toBits y.toBits)⟩
instance : Mul Single := ⟨fun x y => ofBits (BinaryFormat.single.mul x.toBits y.toBits)⟩
instance : Div Single := ⟨fun x y => ofBits (BinaryFormat.single.div x.toBits y.toBits)⟩
instance : Neg Single := ⟨fun x => ofBits (BinaryFormat.single.negate x.toBits)⟩

instance : LT Single := ⟨fun x y => BinaryFormat.single.lt x.toBits y.toBits = true⟩

instance (x y : Single) : Decidable (x < y) :=
  inferInstanceAs (Decidable (BinaryFormat.single.lt x.toBits y.toBits = true))

instance : BEq Single := ⟨fun x y => BinaryFormat.single.eq x.toBits y.toBits⟩

instance : Repr Single := ⟨fun x _ => "Single.ofBits " ++ repr x.toBits⟩

def isNaN (x : Single) : Bool := BinaryFormat.single.isNaN x.toBits
def isInf (x : Single) : Bool := BinaryFormat.single.isInf x.toBits
def sqrt (x : Single) : Single := ofBits (BinaryFormat.single.sqrt x.toBits)
def abs (x : Single) : Single := ofBits (BinaryFormat.single.absolute x.toBits)

/-- The platform's `pow` in single precision. -/
def pow (x y : Single) : Single :=
  ⟨(Float32.pow (Float32.ofBits x.bits) (Float32.ofBits y.bits)).toBits⟩

/-- The exact double of the value. -/
def toDouble (x : Single) : Double := Double.ofBits (BinaryFormat.single.convert .double x.toBits)

end Single

end Dimensional
