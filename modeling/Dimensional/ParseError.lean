import Dimensional.Exponents
import Dimensional.Text.Quoted

/-!
Why quantity text or a unit signature could not be read. A `Fault` says what is wrong with a
signature's form; a `ParseError` adds the other causes: nothing to read, a bad number, an
unknown symbol, a dimension other than the expected one, and an offset unit where only a whole
signature may stand. Each has one message; quoted words are written with `Text.quote`.
-/

namespace Dimensional

/-- What is wrong with the form of a unit signature. -/
inductive Fault where
  /-- Nothing but blanks. -/
  | noUnit
  /-- An operator first, or right after another operator. -/
  | unexpected (op : Char)
  /-- An operator at the end. -/
  | dangling (op : Char)
  /-- A power after `^`, or of trailing digits, that is no 32-bit integer. -/
  | badExponentIn (word : String)
  /-- A run of superscript characters that is no 32-bit integer. -/
  | badSuperscript (run : String)
  /-- A power with nothing before it. -/
  | missingSymbol (word : String)
  /-- A power of zero. -/
  | zeroExponent (word : String)
  /-- An exponent that leaves the 32-bit range. -/
  | exponentOverflow
  /-- A factor that is zero or not finite. -/
  | factorOutOfRange
  deriving DecidableEq, Repr

namespace Fault

/-- The reason as written after the signature. -/
def reason : Fault → String
  | noUnit => "no unit"
  | unexpected op => "unexpected '" ++ op.toString ++ "'"
  | dangling op => "dangling '" ++ op.toString ++ "'"
  | badExponentIn word => "bad exponent in " ++ Text.quote word
  | badSuperscript run => "bad exponent " ++ Text.quote run
  | missingSymbol word => "missing symbol in " ++ Text.quote word
  | zeroExponent word => "zero exponent in " ++ Text.quote word
  | exponentOverflow => "exponent overflow"
  | factorOutOfRange => "factor out of range"

end Fault

/-- Why quantity text could not be read. -/
inductive ParseError where
  /-- Nothing but blanks. -/
  | empty
  /-- The leading number, as written, could not be read. -/
  | invalidNumber (text : String)
  /-- A symbol that is not registered. -/
  | unknownUnit (symbol : String)
  /-- The signature, as given, has a fault. -/
  | malformed (signature : String) (fault : Fault)
  /-- The unit measures another dimension. -/
  | dimensionMismatch (expected found : Exponents)
  /-- An offset unit in a compound signature or raised to a power. -/
  | affineInCompound (symbol : String)
  deriving DecidableEq, Repr

namespace ParseError

/-- The message of an error. -/
def message : ParseError → String
  | empty => "empty input"
  | invalidNumber text => "invalid number: " ++ Text.quote text
  | unknownUnit symbol => "unknown unit: " ++ Text.quote symbol
  | malformed signature fault =>
    "malformed unit signature " ++ Text.quote signature ++ ": " ++ fault.reason
  | dimensionMismatch expected found =>
    "dimension mismatch: expected " ++ expected.render ++ ", found " ++ found.render
  | affineInCompound symbol =>
    "unit " ++ Text.quote symbol ++ " has an offset and cannot appear in a compound signature"

end ParseError

end Dimensional
