import Dimensional.Decimal.Nearest

/-!
Reading numbers from text. `readFloat?` accepts an optional sign followed by `inf`, `infinity`
or `nan` in any case, or by decimal digits with an optional point and an optional exponent,
with at least one digit before the exponent; the value is rounded once to the format.
`readInt32?` accepts an optional sign and at least one digit, and refuses a value outside the
32-bit range.
-/

namespace Dimensional
namespace Decimal

/-- Whether `c` is an ASCII digit. -/
def isDigit (c : Char) : Bool := '0' ≤ c && c ≤ '9'

/-- The value of a list of ASCII digits. -/
def digitsValue (ds : List Char) : Nat :=
  ds.foldl (fun n c => 10 * n + (c.toNat - '0'.toNat)) 0

/-- An optional sign at the head of `cs`: whether it is a minus, and the rest. -/
def splitSign (cs : List Char) : Bool × List Char :=
  match cs with
  | '+' :: rest => (false, rest)
  | '-' :: rest => (true, rest)
  | _ => (false, cs)

/-- ASCII lowercase of a character. -/
def lowerAscii (c : Char) : Char :=
  if 'A' ≤ c && c ≤ 'Z' then Char.ofNat (c.toNat + 32) else c

/-- The exponent part `[+-]digits` after an `e`; none if it is not of that form. -/
def readExponent? (cs : List Char) : Option Int :=
  let (negative, ds) := splitSign cs
  if ds.isEmpty || !ds.all isDigit then none
  else
    let v : Int := digitsValue ds
    some (if negative then -v else v)

/-- Significand digits and decimal exponent of `digits [. digits] [e exponent]`, with at least
one digit in the significand. -/
def readDecimal? (cs : List Char) : Option (Nat × Int) :=
  let whole := cs.takeWhile isDigit
  let rest := cs.dropWhile isDigit
  let (fraction, rest) := match rest with
    | '.' :: r => (r.takeWhile isDigit, r.dropWhile isDigit)
    | _ => ([], rest)
  if whole.isEmpty && fraction.isEmpty then none
  else
    let exponent? : Option Int := match rest with
      | [] => some 0
      | c :: r => if c = 'e' || c = 'E' then readExponent? r else none
    exponent?.map fun e => (digitsValue (whole ++ fraction), e - fraction.length)

/-- Reads `s` as a value of format `f`, as bits. -/
def readFloat? (f : BinaryFormat) (s : String) : Option Nat :=
  let (negative, body) := splitSign s.toList
  let word := String.ofList (body.map lowerAscii)
  if word = "inf" || word = "infinity" then some (f.encodeInfinite negative)
  else if word = "nan" then some (f.encodeInfinite false + 2 ^ (f.fractionWidth - 1))
  else (readDecimal? body).map fun (n, e) => f.roundDecimal negative n e

/-- Reads `s` as a signed 32-bit integer. -/
def readInt32? (s : String) : Option Int32 :=
  let (negative, ds) := splitSign s.toList
  if ds.isEmpty || !ds.all isDigit then none
  else
    let v : Int := if negative then -(digitsValue ds : Int) else digitsValue ds
    if -2 ^ (31 : Nat) ≤ v && v < 2 ^ (31 : Nat) then some (Int32.ofInt v) else none

end Decimal
end Dimensional
