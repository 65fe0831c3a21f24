/-!
Dimensions as vectors of exponents over the five base dimensions: length `L`, mass `M`, time
`T`, temperature `Θ` and angle `A`. Each exponent is a signed 32-bit integer; the product of two
dimensions adds exponents and a power multiplies them, and both refuse a result that leaves the
32-bit range. A dimension is written as its non-zero factors joined by `·`, each exponent other
than one in superscript digits (`L²·M·T⁻²`), and the dimensionless vector as `1`.
-/

namespace Dimensional

/-- Sum of two 32-bit integers, none if it leaves the 32-bit range. -/
def checkedAdd (a b : Int32) : Option Int32 :=
  let s := a.toInt + b.toInt
  if -2 ^ (31 : Nat) ≤ s ∧ s < 2 ^ (31 : Nat) then some (Int32.ofInt s) else none

/-- Product of two 32-bit integers, none if it leaves the 32-bit range. -/
def checkedMul (a b : Int32) : Option Int32 :=
  let p := a.toInt * b.toInt
  if -2 ^ (31 : Nat) ≤ p ∧ p < 2 ^ (31 : Nat) then some (Int32.ofInt p) else none

/-- Negation of a 32-bit integer, none for the least one. -/
def checkedNeg (a : Int32) : Option Int32 :=
  if a.toInt = -2 ^ (31 : Nat) then none else some (Int32.ofInt (-a.toInt))

/-- Exponents of length, mass, time, temperature and angle. -/
structure Exponents where
  length : Int32
  mass : Int32
  time : Int32
  temperature : Int32
  angle : Int32
  deriving DecidableEq, Repr, Inhabited

namespace Exponents

/-- The dimensionless vector. -/
def dimensionless : Exponents := ⟨0, 0, 0, 0, 0⟩

/-- The five exponents in order. -/
def toList (e : Exponents) : List Int32 := [e.length, e.mass, e.time, e.temperature, e.angle]

/-- The vector with the five exponents of a list, none for another length. -/
def ofList? : List Int32 → Option Exponents
  | [l, m, t, θ, a] => some ⟨l, m, t, θ, a⟩
  | _ => none

/-- Whether every exponent is zero. -/
def isDimensionless (e : Exponents) : Bool := e == dimensionless

/-- Combines two vectors exponent by exponent with a partial operation. -/
def zipWith? (op : Int32 → Int32 → Option Int32) (a b : Exponents) : Option Exponents := do
  pure ⟨← op a.length b.length, ← op a.mass b.mass, ← op a.time b.time,
    ← op a.temperature b.temperature, ← op a.angle b.angle⟩

/-- The dimension of a product: exponents added, none on overflow. -/
def product? (a b : Exponents) : Option Exponents := zipWith? checkedAdd a b

/-- The dimension of an `n`-th power: exponents multiplied by `n`, none on overflow. -/
def power? (a : Exponents) (n : Int32) : Option Exponents :=
  zipWith? (fun x _ => checkedMul x n) a a

/-- Exponent-wise sum, wrapping; for the dimensions of fixed quantity kinds. -/
def add (a b : Exponents) : Exponents :=
  ⟨a.length + b.length, a.mass + b.mass, a.time + b.time, a.temperature + b.temperature,
    a.angle + b.angle⟩

/-- Exponent-wise difference, wrapping; for the dimensions of fixed quantity kinds. -/
def sub (a b : Exponents) : Exponents :=
  ⟨a.length - b.length, a.mass - b.mass, a.time - b.time, a.temperature - b.temperature,
    a.angle - b.angle⟩

/-- Symbols of the base dimensions, in order. -/
def symbols : List String := ["L", "M", "T", "Θ", "A"]

/-- Superscript form of a decimal digit. -/
def superscriptDigit (c : Char) : Char :=
  match c with
  | '0' => '⁰' | '1' => '¹' | '2' => '²' | '3' => '³' | '4' => '⁴'
  | '5' => '⁵' | '6' => '⁶' | '7' => '⁷' | '8' => '⁸' | '9' => '⁹'
  | c => c

/-- An exponent in superscript digits, with `⁻` before a negative one. -/
def superscript (n : Int) : String :=
  (if n < 0 then "⁻" else "") ++ String.ofList ((toString n.natAbs).toList.map superscriptDigit)

/-- One factor of the written form: the symbol, and the exponent unless it is one. -/
def factorText (symbol : String) (n : Int) : String :=
  symbol ++ (if n = 1 then "" else superscript n)

/-- The written form: non-zero factors joined by `·`, or `1` when there is none. -/
def render (e : Exponents) : String :=
  let factors := (symbols.zip e.toList).filter (fun p => p.2 != 0)
  if factors.isEmpty then "1"
  else "·".intercalate (factors.map fun p => factorText p.1 p.2.toInt)

instance : ToString Exponents := ⟨render⟩

/-- Quantity kinds by name, with their dimensions. -/
def named : List (String × Exponents) :=
  [("dimensionless", ⟨0, 0, 0, 0, 0⟩), ("length", ⟨1, 0, 0, 0, 0⟩), ("mass", ⟨0, 1, 0, 0, 0⟩),
   ("time", ⟨0, 0, 1, 0, 0⟩), ("temperature", ⟨0, 0, 0, 1, 0⟩), ("angle", ⟨0, 0, 0, 0, 1⟩),
   ("area", ⟨2, 0, 0, 0, 0⟩), ("volume", ⟨3, 0, 0, 0, 0⟩), ("velocity", ⟨1, 0, -1, 0, 0⟩),
   ("acceleration", ⟨1, 0, -2, 0, 0⟩), ("frequency", ⟨0, 0, -1, 0, 0⟩),
   ("angular_velocity", ⟨0, 0, -1, 0, 1⟩), ("momentum", ⟨1, 1, -1, 0, 0⟩),
   ("force", ⟨1, 1, -2, 0, 0⟩), ("energy", ⟨2, 1, -2, 0, 0⟩), ("power", ⟨2, 1, -3, 0, 0⟩),
   ("pressure", ⟨-1, 1, -2, 0, 0⟩), ("density", ⟨-3, 1, 0, 0, 0⟩),
   ("wavenumber", ⟨-1, 0, 0, 0, 0⟩), ("inverse_area", ⟨-2, 0, 0, 0, 0⟩),
   ("inverse_volume", ⟨-3, 0, 0, 0, 0⟩), ("length4", ⟨4, 0, 0, 0, 0⟩),
   ("length6", ⟨6, 0, 0, 0, 0⟩), ("mass2", ⟨0, 2, 0, 0, 0⟩), ("inverse_mass", ⟨0, -1, 0, 0, 0⟩),
   ("time2", ⟨0, 0, 2, 0, 0⟩), ("inverse_time2", ⟨0, 0, -2, 0, 0⟩),
   ("inverse_time3", ⟨0, 0, -3, 0, 0⟩), ("length_time", ⟨1, 0, 1, 0, 0⟩),
   ("length_mass", ⟨1, 1, 0, 0, 0⟩), ("mass_per_time", ⟨0, 1, -1, 0, 0⟩),
   ("length_per_mass", ⟨1, -1, 0, 0, 0⟩), ("specific_energy", ⟨2, 0, -2, 0, 0⟩),
   ("temperature2", ⟨0, 0, 0, 2, 0⟩), ("inverse_temperature", ⟨0, 0, 0, -1, 0⟩),
   ("temperature_rate", ⟨0, 0, -1, 1, 0⟩), ("angle2", ⟨0, 0, 0, 0, 2⟩),
   ("inverse_angle", ⟨0, 0, 0, 0, -1⟩), ("time_per_angle", ⟨0, 0, 1, 0, -1⟩),
   ("angular_acceleration", ⟨0, 0, -2, 0, 1⟩), ("torque_per_angle", ⟨2, 1, -2, 0, -1⟩),
   ("entropy", ⟨2, 1, -2, -1, 0⟩), ("area_per_time", ⟨2, 0, -1, 0, 0⟩),
   ("volume_rate", ⟨3, 0, -1, 0, 0⟩), ("jerk", ⟨1, 0, -3, 0, 0⟩),
   ("everything", ⟨1, 1, 1, 1, 1⟩)]

/-- The dimension of a quantity kind given by name. -/
def ofName? (name : String) : Option Exponents := (named.find? (·.1 == name)).map (·.2)

end Exponents

end Dimensional
