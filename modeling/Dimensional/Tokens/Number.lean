import Dimensional.Tokens.Lexer
import Dimensional.Decimal.Reading
import Dimensional.Double

/-!
# Numeric literals

A literal token whose text starts with a digit (or a minus sign) is read as an integer if it can
be, and otherwise as a float; each reading splits the text into base-10 digits and a suffix,
which must be empty or an identifier.

* An integer has an optional base prefix (`0x`, `0o`, `0b`), digits of that base with `_`
  separators, and a suffix. In base 10 a point means a float, and so does an `e` that is
  followed by exponent digits (a sign there, or digits and then an identifier); an `e` with no
  exponent digits starts the suffix (`1e_m` has the suffix `e_m`). The digits are the value
  written in base 10.
* A float has digits with separators, at most one point, and an exponent whose `e` must be
  followed (past separators) by a sign or a digit; a second `e` after exponent digits starts
  the suffix (`1e1e1_m` is `1e1` with the suffix `e1_m`). The digits drop the separators and a
  `+` of the exponent.

Anything else (strings, characters, bytes, texts that fit neither reading) is not numeric.
-/

namespace Dimensional
namespace Tokens

/-- What a literal is for unit-literal expansion: an integer or a float with its base-10 digits and its
suffix, or something else. -/
inductive Numeric where
  | integer (digits suffix : String)
  | float (digits suffix : String)
  | other
  deriving DecidableEq, Repr

/-- Whether a text is an identifier (a suffix). -/
def isIdentText : List Char → Bool
  | [] => false
  | c :: rest => isIdentStart c && rest.all isIdentContinue

/-- An acceptable suffix: empty or an identifier. -/
def suffixOk (suffix : List Char) : Bool := suffix.isEmpty || isIdentText suffix

/-- After an `e` in a decimal integer: whether the literal is a float instead, because exponent
digits follow (a sign, or digits and then an identifier, or digits to the end). -/
def exponentFollows : List Char → (hasDigits : Bool) → Bool
  | [], h => h
  | c :: rest, h =>
    if c = '_' then exponentFollows rest h
    else if c = '-' || c = '+' then true
    else if isDigit c then exponentFollows rest true
    else h && isIdentText (c :: rest)

/-- The digit `c` stands for in `base`. -/
def digitIn (base : Nat) (c : Char) : Option Nat :=
  if isDigit c then some (c.toNat - '0'.toNat)
  else if base > 10 && 'a' ≤ c && c ≤ 'f' then some (c.toNat - 'a'.toNat + 10)
  else if base > 10 && 'A' ≤ c && c ≤ 'F' then some (c.toNat - 'A'.toNat + 10)
  else none

/-- The digits of an integer in `base`: its value and its suffix. -/
def integerDigits (base : Nat) : List Char → (value : Nat) → (hasDigit : Bool) → Option (Nat × List Char)
  | [], v, d => if d then some (v, []) else none
  | c :: rest, v, d =>
    match digitIn base c with
    | some digit => if digit ≥ base then none else integerDigits base rest (v * base + digit) true
    | none =>
      if c = '_' then integerDigits base rest v d
      else if c = '.' && base = 10 then none
      else if (c = 'e' || c = 'E') && base = 10 && exponentFollows rest false then none
      else if d then some (v, c :: rest) else none

/-- An integer reading of a literal text: its base-10 digits and suffix. -/
def integerLiteral? (text : List Char) : Option (String × String) :=
  let (sign, body) := match text with
    | '-' :: rest => ("-", rest)
    | _ => ("", text)
  let start : Option (Nat × List Char) := match body with
    | '0' :: 'x' :: rest => some (16, rest)
    | '0' :: 'o' :: rest => some (8, rest)
    | '0' :: 'b' :: rest => some (2, rest)
    | c :: _ => if isDigit c then some (10, body) else none
    | [] => none
  match start with
  | none => none
  | some (base, digits) =>
    match integerDigits base digits 0 false with
    | some (v, suffix) => if suffixOk suffix then some (sign ++ toString v, String.ofList suffix) else none
    | none => none

/-- The state of a float reading: the digits so far (reversed), and what has been seen. -/
structure FloatScan where
  digits : List Char
  hasDot : Bool
  hasE : Bool
  hasSign : Bool
  hasExponent : Bool

/-- The end of a float reading at `suffix`. -/
def FloatScan.finish (s : FloatScan) (suffix : List Char) : Option (String × String) :=
  if s.hasE && !s.hasExponent then none
  else if suffixOk suffix then some (String.ofList s.digits.reverse, String.ofList suffix)
  else none

/-- Reads the rest of a float. -/
def floatDigits (s : FloatScan) : List Char → Option (String × String)
  | [] => s.finish []
  | c :: rest =>
    if c = '_' then floatDigits s rest
    else if isDigit c then floatDigits { s with digits := c :: s.digits, hasExponent := s.hasExponent || s.hasE } rest
    else if c = '.' then
      if s.hasE || s.hasDot then none
      else floatDigits { s with digits := '.' :: s.digits, hasDot := true } rest
    else if c = 'e' || c = 'E' then
      let next := (rest.dropWhile (· = '_')).headD '\x00'
      if !(next = '-' || next = '+' || isDigit next) then s.finish (c :: rest)
      else if s.hasE then (if s.hasExponent then s.finish (c :: rest) else none)
      else floatDigits { s with digits := 'e' :: s.digits, hasE := true } rest
    else if c = '-' || c = '+' then
      if s.hasSign || s.hasExponent || !s.hasE then none
      else floatDigits { s with digits := if c = '-' then '-' :: s.digits else s.digits, hasSign := true } rest
    else s.finish (c :: rest)

/-- A float reading of a literal text: its digits and suffix. -/
def floatLiteral? (text : List Char) : Option (String × String) :=
  let (sign, body) := match text with
    | '-' :: rest => (['-'], rest)
    | _ => ([], text)
  match body with
  | c :: _ => if isDigit c then floatDigits ⟨sign.reverse, false, false, false, false⟩ body else none
  | [] => none

/-- What a literal text is: an integer if it reads as one, else a float, else neither. -/
def Numeric.classify (text : String) : Numeric :=
  match text.toList with
  | c :: _ =>
    if isDigit c || c = '-' then
      match integerLiteral? text.toList with
      | some (d, s) => .integer d s
      | none =>
        match floatLiteral? text.toList with
        | some (d, s) => .float d s
        | none => .other
    else .other
  | [] => .other

/-- The double a string of base-10 digits denotes, correctly rounded; too large is infinite. -/
def base10Value? (digits : String) : Option Double :=
  (Decimal.readFloat? .double digits).map fun bits => Double.ofBits bits

end Tokens
end Dimensional
