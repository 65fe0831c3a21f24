import Dimensional.Double

/-!
JSON numbers as a fast reader reads them. An integer that fits is kept exact: unsigned below
`2^64`, negative down to `-2^63`. Every other number becomes a double by a single scaling: its
significand, cut to what fits in 64 bits, is rounded to a double and then multiplied or divided
by the double nearest to the power of ten (in steps of `10^308` far below the range). The
result is therefore not always the double nearest to the text: `1e-45` reads as
`1.0000000000000001e-45`.
-/

namespace Dimensional
namespace Json

open Decimal

/-- Why a number text is refused. -/
inductive NumberError where
  | invalidNumber
  | eofWhileParsingValue
  | outOfRange
  deriving DecidableEq, Repr

/-- A JSON number as read: an exact unsigned or negative integer, or a double (as bits). -/
inductive Number where
  | unsigned (n : Nat)
  | negative (i : Int)
  | double (bits : Nat)
  deriving DecidableEq, Repr

/-- The greatest 64-bit unsigned integer. -/
def u64Max : Nat := 2 ^ (64 : Nat) - 1

/-- Whether appending `digit` to `significand` would pass `bound`. -/
def overflows (significand digit bound : Nat) : Bool :=
  significand ≥ bound / 10 && (significand > bound / 10 || digit > bound % 10)

/-- The double nearest to `10^k`. -/
def powerOfTen (k : Nat) : Double := Double.ofBits (BinaryFormat.double.roundDecimal false 1 k)

/-- Scales `f` by `10^exponent` in at most `fuel` steps of `10^308`; none when a positive
scaling overflows. -/
def scaleByTen (f : Double) (exponent : Int) : (fuel : Nat) → Option Double
  | 0 => some f
  | fuel + 1 =>
    if exponent.natAbs ≤ 308 then
      if 0 ≤ exponent then
        let g := f * powerOfTen exponent.toNat
        if g.isInf then none else some g
      else some (f / powerOfTen exponent.natAbs)
    else if f == 0 then some f
    else if 0 ≤ exponent then none
    else scaleByTen (f / powerOfTen 308) (exponent + 308) fuel

/-- The double of `significand · 10^exponent` by one scaling, with the sign applied last. -/
def fromParts (positive : Bool) (significand : Nat) (exponent : Int) :
    Except NumberError Number :=
  let f := Double.ofBits (BinaryFormat.double.roundRatio false significand 1)
  match scaleByTen f exponent 8 with
  | none => .error .outOfRange
  | some g => .ok (.double (if positive then g else -g).toBits)

/-- Whether `c` is an ASCII digit. -/
def isDigitChar (c : Char) : Bool := '0' ≤ c && c ≤ '9'

/-- The value of an ASCII digit. -/
def digitOf (c : Char) : Nat := c.toNat - '0'.toNat

/-- A 32-bit saturating sum. -/
def saturate (v : Int) : Int := max (-2 ^ (31 : Nat)) (min (2 ^ (31 : Nat) - 1) v)

/-- Exponent digits after `e` and its sign: accumulated while they fit in 32 bits; past that
a positive exponent of a non-zero significand is out of range and anything else reads as
zero. -/
def readExponentDigits (positive positiveExp : Bool) (significand : Nat) (start : Int) :
    (cs : List Char) → (acc : Nat) → Except NumberError (Number × List Char)
  | c :: rest, acc =>
    if isDigitChar c then
      if overflows acc (digitOf c) (2 ^ (31 : Nat) - 1) then
        if significand ≠ 0 && positiveExp then .error .outOfRange
        else
          let zero : Double := if positive then 0.0 else -0.0
          .ok (.double zero.toBits, rest.dropWhile isDigitChar)
      else readExponentDigits positive positiveExp significand start rest (10 * acc + digitOf c)
    else
      let e := saturate (if positiveExp then start + acc else start - acc)
      (fromParts positive significand e).map (·, c :: rest)
  | [], acc =>
    let e := saturate (if positiveExp then start + acc else start - acc)
    (fromParts positive significand e).map (·, [])

/-- The exponent part, at its `e`. -/
def readExponent (positive : Bool) (significand : Nat) (start : Int) (cs : List Char) :
    Except NumberError (Number × List Char) :=
  let (positiveExp, cs) := match cs with
    | '+' :: r => (true, r)
    | '-' :: r => (false, r)
    | _ => (true, cs)
  match cs with
  | [] => .error .eofWhileParsingValue
  | c :: rest =>
    if isDigitChar c then readExponentDigits positive positiveExp significand start rest (digitOf c)
    else .error .invalidNumber

/-- What follows the significand digits: an exponent or the end of the number. -/
def finishDecimal (positive : Bool) (significand : Nat) (exponent : Int) (cs : List Char) :
    Except NumberError (Number × List Char) :=
  match cs with
  | e :: rest => if e = 'e' || e = 'E' then readExponent positive significand exponent rest
    else (fromParts positive significand exponent).map (·, cs)
  | [] => (fromParts positive significand exponent).map (·, [])

/-- Fraction digits: accumulated while the significand fits in 64 bits, ignored after. -/
def readFraction (positive : Bool) (exponent : Int) (started : Bool) :
    (cs : List Char) → (significand : Nat) → (digits : Nat) → Except NumberError (Number × List Char)
  | c :: rest, significand, digits =>
    if isDigitChar c then
      if overflows significand (digitOf c) u64Max then
        finishDecimal positive significand (exponent - digits) (rest.dropWhile isDigitChar)
      else readFraction positive exponent true rest (10 * significand + digitOf c) (digits + 1)
    else if !started && digits = 0 then .error .invalidNumber
    else finishDecimal positive significand (exponent - digits) (c :: rest)
  | [], significand, digits =>
    if !started && digits = 0 then .error .eofWhileParsingValue
    else finishDecimal positive significand (exponent - digits) []

/-- After the integer digits: a fraction, an exponent, or an integer result. -/
def afterInteger (positive : Bool) (significand : Nat) (cs : List Char) :
    Except NumberError (Number × List Char) :=
  match cs with
  | '.' :: rest => readFraction positive 0 false rest significand 0
  | e :: rest =>
    if e = 'e' || e = 'E' then readExponent positive significand 0 rest
    else if positive then .ok (.unsigned significand, cs)
    else if significand = 0 || 2 ^ (63 : Nat) < significand then
      .ok (.double (-(Double.ofBits (BinaryFormat.double.roundRatio false significand 1))).toBits, cs)
    else .ok (.negative (-(significand : Int)), cs)
  | [] =>
    if positive then .ok (.unsigned significand, [])
    else if significand = 0 || 2 ^ (63 : Nat) < significand then
      .ok (.double (-(Double.ofBits (BinaryFormat.double.roundRatio false significand 1))).toBits, [])
    else .ok (.negative (-(significand : Int)), [])

/-- Integer digits past 64 bits: each one raises the exponent. -/
def readLongInteger (positive : Bool) (significand : Nat) :
    (cs : List Char) → (exponent : Nat) → Except NumberError (Number × List Char)
  | c :: rest, exponent =>
    if isDigitChar c then readLongInteger positive significand rest (exponent + 1)
    else if c = '.' then readFraction positive exponent false rest significand 0
    else if c = 'e' || c = 'E' then readExponent positive significand exponent rest
    else (fromParts positive significand exponent).map (·, c :: rest)
  | [], exponent => (fromParts positive significand exponent).map (·, [])

/-- Integer digits after a leading non-zero digit. -/
def readIntegerDigits (positive : Bool) :
    (cs : List Char) → (significand : Nat) → Except NumberError (Number × List Char)
  | c :: rest, significand =>
    if isDigitChar c then
      if overflows significand (digitOf c) u64Max then
        readLongInteger positive significand (c :: rest) 0
      else readIntegerDigits positive rest (10 * significand + digitOf c)
    else afterInteger positive significand (c :: rest)
  | [], significand => afterInteger positive significand []

/-- Reads a number at the head of `cs` (after its minus sign, if `positive` is false). -/
def readUnsignedNumber (positive : Bool) (cs : List Char) :
    Except NumberError (Number × List Char) :=
  match cs with
  | [] => .error .eofWhileParsingValue
  | '0' :: rest =>
    match rest with
    | c :: _ => if isDigitChar c then .error .invalidNumber else afterInteger positive 0 rest
    | [] => afterInteger positive 0 []
  | c :: rest =>
    if isDigitChar c then readIntegerDigits positive rest (digitOf c)
    else .error .invalidNumber

/-- Reads a number at the head of `cs`, which starts with a minus sign or a digit. -/
def readNumber (cs : List Char) : Except NumberError (Number × List Char) :=
  match cs with
  | '-' :: rest => readUnsignedNumber false rest
  | _ => readUnsignedNumber true cs

/-- A number as a double: integers are rounded once. -/
def Number.toDouble : Number → Double
  | .unsigned n => Double.ofBits (BinaryFormat.double.roundRatio false n 1)
  | .negative i => Double.ofBits (BinaryFormat.double.roundRatio true i.natAbs 1)
  | .double bits => Double.ofBits bits

/-- A number as a single: integers are rounded once, doubles rounded again. -/
def Number.toSingle : Number → Single
  | .unsigned n => Single.ofBits (BinaryFormat.single.roundRatio false n 1)
  | .negative i => Single.ofBits (BinaryFormat.single.roundRatio true i.natAbs 1)
  | .double bits => (Double.ofBits bits).toSingle

/-- The number written by the whole of `text`, if it is one. -/
def Number.ofText? (text : String) : Option Number :=
  match readNumber text.toList with
  | .ok (n, []) => some n
  | _ => none

end Json
end Dimensional
