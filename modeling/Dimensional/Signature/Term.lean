import Dimensional.ParseError
import Dimensional.Decimal.Reading

/-!
One factor of a unit signature: a symbol and a non-zero 32-bit power. A word is read as a term
by the first of these rules that applies: a `^` splits it into symbol and power; a trailing run
of superscript characters (`⁰`…`⁹`, `⁻`) is the power; a word that is a registered symbol has
power one; otherwise trailing ASCII digits, with a `-` right before them, are the power.
-/

namespace Dimensional
namespace Signature

/-- A symbol raised to a power. -/
structure Term where
  symbol : String
  power : Int32
  deriving DecidableEq, Repr

/-- Superscript digits in order of value. -/
def superscriptDigits : List Char := ['⁰', '¹', '²', '³', '⁴', '⁵', '⁶', '⁷', '⁸', '⁹']

/-- Whether `c` may stand in a superscript power. -/
def isSuperscript (c : Char) : Bool := c = '⁻' || superscriptDigits.contains c

/-- The ASCII form of a superscript character: its digit, or `-` for `⁻`. -/
def fromSuperscript (c : Char) : Char :=
  match superscriptDigits.idxOf? c with
  | some d => Char.ofNat ('0'.toNat + d)
  | none => '-'

/-- `cs` split before the longest run at its end whose characters satisfy `p`. -/
def splitTrailing (p : Char → Bool) (cs : List Char) : List Char × List Char :=
  let run := (cs.reverse.takeWhile p).reverse
  (cs.take (cs.length - run.length), run)

/-- The symbol and power a word states, before the symbol and power are checked. -/
def splitWord (isSymbol : String → Bool) (word : String) : Except Fault (String × Int32) :=
  let cs := word.toList
  if cs.contains '^' then
    let before := cs.takeWhile (· ≠ '^')
    let after := (cs.dropWhile (· ≠ '^')).drop 1
    match Decimal.readInt32? (String.ofList after) with
    | some n => .ok (String.ofList before, n)
    | none => .error (.badExponentIn word)
  else
    let (stem, run) := splitTrailing isSuperscript cs
    if !run.isEmpty then
      match Decimal.readInt32? (String.ofList (run.map fromSuperscript)) with
      | some n => .ok (String.ofList stem, n)
      | none => .error (.badSuperscript (String.ofList run))
    else if isSymbol word then .ok (word, 1)
    else
      let (stem, digits) := splitTrailing Decimal.isDigit cs
      if digits.isEmpty then .ok (word, 1)
      else
        let (stem, digits) :=
          if stem.getLast? = some '-' then (stem.dropLast, '-' :: digits) else (stem, digits)
        match Decimal.readInt32? (String.ofList digits) with
        | some n => .ok (String.ofList stem, n)
        | none => .error (.badExponentIn word)

/-- Reads a word as a term; a word with no symbol or with power zero is refused. -/
def Term.ofWord (isSymbol : String → Bool) (word : String) : Except Fault Term := do
  let (symbol, power) ← splitWord isSymbol word
  if symbol.isEmpty then throw (.missingSymbol word)
  if power = 0 then throw (.zeroExponent word)
  pure ⟨symbol, power⟩

end Signature
end Dimensional
