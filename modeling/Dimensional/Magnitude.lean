import Dimensional.ParseError
import Dimensional.Decimal.Reading
import Dimensional.Double
import Dimensional.Text.Blank

/-!
The number at the head of quantity text such as `-1_000.5e-3 km`. The longest prefix of the
form `[+-] (digit|_)* [. (digit|_)*]`, holding at least one digit, is the number, followed by an
exponent `e`/`E` with an optional sign only when a digit comes after it, so that a symbol
starting with `e` stays whole. When there is no such prefix, the first word is the number,
which is how `inf` and `NaN` are read. Underscores are dropped before the number is read.
-/

namespace Dimensional
namespace Magnitude

/-- Whether `c` may stand among the digits of the number. -/
def isDigitOrUnderscore (c : Char) : Bool := Decimal.isDigit c || c = '_'

/-- Length of the signed prefix `[+-]` of `cs`. -/
def signLength (cs : List Char) : Nat :=
  match cs with
  | '+' :: _ | '-' :: _ => 1
  | _ => 0

/-- Length of the exponent part at the head of `cs`, zero if no digit follows the `e`. -/
def exponentLength (cs : List Char) : Nat :=
  match cs with
  | c :: rest =>
    if c = 'e' || c = 'E' then
      let s := signLength rest
      let digits := (rest.drop s).takeWhile Decimal.isDigit
      if digits.isEmpty then 0 else 1 + s + digits.length
    else 0
  | [] => 0

/-- Length of the number prefix of `cs`, zero if there is none. -/
def prefixLength (cs : List Char) : Nat :=
  let s := signLength cs
  let body := cs.drop s
  let whole := body.takeWhile isDigitOrUnderscore
  let afterWhole := body.dropWhile isDigitOrUnderscore
  let fraction := match afterWhole with
    | '.' :: r => '.' :: r.takeWhile isDigitOrUnderscore
    | _ => []
  if (whole ++ fraction).any Decimal.isDigit then
    s + whole.length + fraction.length + exponentLength (afterWhole.drop fraction.length)
  else 0

/-- The number text of blank-trimmed quantity text and what follows it. -/
def splitText (cs : List Char) : List Char × List Char :=
  match prefixLength cs with
  | 0 => (cs.takeWhile (fun c => !Text.isBlank c), cs.dropWhile (fun c => !Text.isBlank c))
  | n => (cs.take n, cs.drop n)

/-- Splits quantity text into its number, as a double, and its trimmed signature. -/
def split (text : String) : Except ParseError (Double × String) :=
  let cs := Text.trimBlanks text.toList
  if cs.isEmpty then .error .empty
  else
    let (number, rest) := splitText cs
    match Decimal.readFloat? .double (String.ofList (number.filter (· ≠ '_'))) with
    | some bits => .ok (Double.ofBits bits, String.ofList (Text.trimBlanks rest))
    | none => .error (.invalidNumber (String.ofList number))

end Magnitude
end Dimensional
