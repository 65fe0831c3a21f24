import Dimensional.Registry.Basic
import Dimensional.Signature
import Dimensional.Magnitude

/-!
Resolving unit signatures against a registry, and reading quantity text with it. The terms of
a signature are taken from the left: each symbol must be registered; an offset unit may only be
the whole signature, with power one, and then it is the answer as registered; otherwise the
dimension gains the symbol's exponents times the power, in checked 32-bit arithmetic, and the
factor is multiplied by the symbol's factor to that power. A factor that ends zero or not
finite is refused once every term has passed.
-/

namespace Dimensional
namespace Registry

/-- The unit of an empty signature: dimensionless with factor one. -/
def identity : UnitDef := .scaled .dimensionless 1.0

/-- Resolves the terms left to right from the dimension and factor so far; `single` says
whether the signature has one term. -/
def combine (r : Registry) (signature : String) (single : Bool) :
    List Signature.Term → Exponents → Double → Except ParseError UnitDef
  | [], e, f =>
    if !f.isFinite || f == 0.0 then .error (.malformed signature .factorOutOfRange)
    else .ok (.scaled e f)
  | t :: rest, e, f =>
    match r.find? t.symbol with
    | none => .error (.unknownUnit t.symbol)
    | some u =>
      if u.ratio.isAffine then
        if single && t.power == 1 then .ok u else .error (.affineInCompound t.symbol)
      else
        match (u.exponents.power? t.power).bind e.product? with
        | none => .error (.malformed signature .exponentOverflow)
        | some e' => combine r signature single rest e' (f * Scalar.powi u.factor t.power.toInt)

/-- The unit a signature stands for. -/
def resolve (r : Registry) (signature : String) : Except ParseError UnitDef := do
  let terms ← Signature.parse r.contains signature
  combine r signature (terms.length == 1) terms .dimensionless 1.0

/-- The unit of the signature that follows a number: the identity if there is none. -/
def resolveRest (r : Registry) (signature : String) : Except ParseError UnitDef :=
  if signature.isEmpty then .ok identity else r.resolve signature

/-- Reads quantity text as a base value of the dimension `expected`. -/
def parseQuantity (r : Registry) (expected : Exponents) (text : String) :
    Except ParseError Double := do
  let (number, signature) ← Magnitude.split text
  let u ← r.resolveRest signature
  if u.exponents ≠ expected then throw (.dimensionMismatch expected u.exponents)
  pure (u.ratio.toBase number)

/-- Adds `symbol` as the scale unit that a definition such as `201.168 m` states. -/
def define (symbol definition : String) : Update Unit := do
  let split ← ofExcept ((Magnitude.split definition).mapError (.definition symbol))
  let r ← get
  let u ← ofExcept ((r.resolveRest split.2).mapError (.definition symbol))
  if u.ratio.isAffine then throw (.invalidEntry symbol .offsetDefinition)
  else insert symbol (.scaled u.exponents (split.1 * u.factor))

end Registry
end Dimensional
