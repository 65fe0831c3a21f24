/-!
Binary floating-point formats. A bit pattern of a format denotes NaN, a signed infinity or a
signed finite value `m · 2^q`; `BinaryFormat.decode` reads that view off the bits and
`BinaryFormat.encodeFinite` writes a value that already fits back into bits.
-/

-- A power of a natural number or an integer by a natural number is `Nat.pow` or `Int.pow`
-- wherever the library is elaborated, ahead of any algebraic instance imported beside it.
attribute [instance(1100)] instPowNat

namespace Dimensional
namespace Decimal

/-- An interchange format, given by its significand precision (hidden bit included) and the
width of its exponent field. -/
structure BinaryFormat where
  precision : Nat
  exponentWidth : Nat
  deriving Repr, DecidableEq

/-- What a bit pattern denotes: NaN, an infinity, or `(-1)^negative · m · 2^q`. -/
inductive BinaryValue where
  | nan
  | infinite (negative : Bool)
  | finite (negative : Bool) (m : Nat) (q : Int)
  deriving Repr, DecidableEq

namespace BinaryFormat

/-- Double precision: 53 significand bits and an 11-bit exponent. -/
def double : BinaryFormat := ⟨53, 11⟩

/-- Single precision: 24 significand bits and an 8-bit exponent. -/
def single : BinaryFormat := ⟨24, 8⟩

/-- Bits of the stored fraction. -/
def fractionWidth (f : BinaryFormat) : Nat := f.precision - 1

/-- The exponent bias. -/
def bias (f : BinaryFormat) : Nat := 2 ^ (f.exponentWidth - 1) - 1

/-- The exponent `q` of the least positive value `2^q`, shared by all subnormal values. -/
def leastExponent (f : BinaryFormat) : Int := 1 - (f.bias : Int) - f.fractionWidth

/-- The exponent `q` of the greatest finite values `m · 2^q` with `m < 2^precision`. -/
def greatestExponent (f : BinaryFormat) : Int :=
  ((2 ^ f.exponentWidth - 2 : Nat) : Int) - f.bias - f.fractionWidth

/-- Weight of the sign bit. -/
def signWeight (f : BinaryFormat) : Nat := 2 ^ (f.fractionWidth + f.exponentWidth)

/-- Reads the value denoted by a bit pattern. -/
def decode (f : BinaryFormat) (bits : Nat) : BinaryValue :=
  let fraction := bits % 2 ^ f.fractionWidth
  let field := bits / 2 ^ f.fractionWidth % 2 ^ f.exponentWidth
  let negative := bits / f.signWeight % 2 == 1
  if field = 2 ^ f.exponentWidth - 1 then
    if fraction = 0 then .infinite negative else .nan
  else if field = 0 then .finite negative fraction f.leastExponent
  else .finite negative (fraction + 2 ^ f.fractionWidth) (field + f.leastExponent - 1)

/-- Bits of a finite value that fits: either `m < 2^fractionWidth` at the least exponent, or
`2^fractionWidth ≤ m < 2^precision` at an exponent of the format. -/
def encodeFinite (f : BinaryFormat) (negative : Bool) (m : Nat) (q : Int) : Nat :=
  let sign := if negative then f.signWeight else 0
  if m < 2 ^ f.fractionWidth then sign + m
  else sign + (q - f.leastExponent + 1).toNat * 2 ^ f.fractionWidth + (m - 2 ^ f.fractionWidth)

/-- Bits of a signed infinity. -/
def encodeInfinite (f : BinaryFormat) (negative : Bool) : Nat :=
  (if negative then f.signWeight else 0) + (2 ^ f.exponentWidth - 1) * 2 ^ f.fractionWidth

end BinaryFormat

end Decimal
end Dimensional
