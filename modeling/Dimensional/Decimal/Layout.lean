import Dimensional.Decimal.Nearest

/-!
Writing a binary value as decimal text. The digits come from `shortest`, or from rounding to a
fixed number of places; a `Layout` fixes the rest: which exponents are written positionally,
whether a positional integer keeps `.0`, how the exponent is signed, and the words for NaN and
infinity. The layouts themselves are chosen where the text is written.
-/

namespace Dimensional
namespace Decimal

/-- The decisions of a text format for binary values. -/
structure Layout where
  /-- Scientific exponents `x` with `lowest ≤ x ≤ highest` are written positionally. -/
  lowest : Int
  highest : Int
  /-- A positional integer keeps a point and one zero (`3.0`). -/
  keepPoint : Bool
  /-- Positive exponents carry a plus sign (`1e+300`). -/
  plusExponent : Bool
  /-- Words for NaN and for positive infinity. -/
  nan : String
  infinity : String

/-- `n` zeros. -/
def zeros (n : Nat) : String := String.ofList (List.replicate n '0')

/-- Digits `s` (no leading or trailing zero) of the value `0.s · 10^point`, written positionally;
`keepPoint` adds `.0` to an integer. -/
def positional (s : String) (point : Int) (keepPoint : Bool) : String :=
  let len : Int := s.length
  if point ≤ 0 then "0." ++ zeros (-point).toNat ++ s
  else if point < len then
    String.ofList (s.toList.take point.toNat) ++ "." ++ String.ofList (s.toList.drop point.toNat)
  else s ++ zeros (point - len).toNat ++ (if keepPoint then ".0" else "")

/-- Digits `s` (no leading zero) of the value `s₀.s₁s₂… · 10^x`, in exponent form. -/
def scientific (s : String) (x : Int) (plusExponent : Bool) : String :=
  let rest := s.toList.drop 1
  let mantissa := String.ofList (s.toList.take 1) ++ (if rest.isEmpty then "" else "." ++ String.ofList rest)
  let sign := if x < 0 then "-" else if plusExponent then "+" else ""
  mantissa ++ "e" ++ sign ++ toString x.natAbs

namespace Layout

/-- Writes the shortest digits of the value denoted by `bits` in format `f`. -/
def render (l : Layout) (f : BinaryFormat) (bits : Nat) : String :=
  match f.decode bits with
  | .nan => l.nan
  | .infinite negative => (if negative then "-" else "") ++ l.infinity
  | .finite negative m q =>
    let sign := if negative then "-" else ""
    if m = 0 then sign ++ (if l.keepPoint then "0.0" else "0")
    else
      let (d, k) := shortest f m q
      let s := toString d
      let x := k + s.length - 1
      if l.lowest ≤ x ∧ x ≤ l.highest then sign ++ positional s (x + 1) l.keepPoint
      else sign ++ scientific s x l.plusExponent

/-- Positional text that always has a point: shortest digits, never an exponent, and `.0` after
an integer (`1000.0`, `0.0015`, `1e300` in full). -/
def pointed : Layout := ⟨-400, 400, true, false, "NaN", "inf"⟩

end Layout

/-- Writes the value denoted by `bits` in format `f` rounded to `places` decimal places, a tie
going to the even last digit; NaN and infinity are written with the words of `l`. -/
def renderPlaces (l : Layout) (f : BinaryFormat) (bits : Nat) (places : Nat) : String :=
  match f.decode bits with
  | .nan => l.nan
  | .infinite negative => (if negative then "-" else "") ++ l.infinity
  | .finite negative m q =>
    let num := m * 2 ^ q.toNat * 10 ^ places
    let den := 2 ^ (-q).toNat
    let n := nearerNeighbour (num / den) (num % den) den
    let s := toString n
    let s := zeros (places + 1 - s.length) ++ s
    let cut := s.length - places
    let body := if places = 0 then s
      else String.ofList (s.toList.take cut) ++ "." ++ String.ofList (s.toList.drop cut)
    (if negative then "-" else "") ++ body

end Decimal
end Dimensional
