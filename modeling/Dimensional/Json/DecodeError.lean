import Dimensional.Json.Number
import Dimensional.Decimal.Layout
import Dimensional.Text.Quoted

/-!
Why a JSON text could not be read as a value of a given type. Syntax faults come from the text
itself; the others compare what was found with what the type expects: a value of another kind
(`invalid type`), one out of range (`invalid value`), a sequence of another length, and the
fields of a record. Numbers found in the text are written in the record layout of doubles.
-/

namespace Dimensional
namespace Json

/-- A fault in the text of a JSON value. -/
inductive SyntaxFault where
  | eofWhileParsingList
  | eofWhileParsingObject
  | eofWhileParsingString
  | eofWhileParsingValue
  | expectedColon
  | expectedListCommaOrEnd
  | expectedObjectCommaOrEnd
  | expectedSomeIdent
  | expectedSomeValue
  | invalidEscape
  | invalidNumber
  | numberOutOfRange
  | invalidUnicodeCodePoint
  | controlCharacterWhileParsingString
  | keyMustBeAString
  | loneLeadingSurrogateInHexEscape
  | trailingComma
  | trailingCharacters
  | unexpectedEndOfHexEscape
  deriving DecidableEq, Repr

/-- The message of a fault in the text. -/
def SyntaxFault.message : SyntaxFault → String
  | .eofWhileParsingList => "EOF while parsing a list"
  | .eofWhileParsingObject => "EOF while parsing an object"
  | .eofWhileParsingString => "EOF while parsing a string"
  | .eofWhileParsingValue => "EOF while parsing a value"
  | .expectedColon => "expected `:`"
  | .expectedListCommaOrEnd => "expected `,` or `]`"
  | .expectedObjectCommaOrEnd => "expected `,` or `\x7d`"
  | .expectedSomeIdent => "expected ident"
  | .expectedSomeValue => "expected value"
  | .invalidEscape => "invalid escape"
  | .invalidNumber => "invalid number"
  | .numberOutOfRange => "number out of range"
  | .invalidUnicodeCodePoint => "invalid unicode code point"
  | .controlCharacterWhileParsingString =>
    "control character (\\u0000-\\u001F) found while parsing a string"
  | .keyMustBeAString => "key must be a string"
  | .loneLeadingSurrogateInHexEscape => "lone leading surrogate in hex escape"
  | .trailingComma => "trailing comma"
  | .trailingCharacters => "trailing characters"
  | .unexpectedEndOfHexEscape => "unexpected end of hex escape"

/-- The fault of a number that could not be read. -/
def NumberError.toFault : NumberError → SyntaxFault
  | .invalidNumber => .invalidNumber
  | .eofWhileParsingValue => .eofWhileParsingValue
  | .outOfRange => .numberOutOfRange

/-- How records write an element of a format: shortest digits with `.0` kept on integers,
positional for decimal exponents from -5 to 15 (doubles) or from -6 to 12 (singles), and
`1e+300`, `1.5e-7` outside. Non-finite elements are written as `null` by the record writer. -/
def recordLayout (f : Decimal.BinaryFormat) : Decimal.Layout :=
  if f.precision ≤ 24 then ⟨-6, 12, true, true, "NaN", "inf"⟩ else ⟨-5, 15, true, true, "NaN", "inf"⟩

/-- What was found in the text where a value of another kind was expected. -/
inductive Unexpected where
  | bool (b : Bool)
  | unsigned (n : Nat)
  | signed (i : Int)
  /-- A double, as bits. -/
  | float (bits : Nat)
  | str (s : String)
  | unit
  | seq
  | map
  deriving DecidableEq, Repr

/-- How a found value is described. -/
def Unexpected.describe : Unexpected → String
  | .bool b => "boolean `" ++ toString b ++ "`"
  | .unsigned n => "integer `" ++ toString n ++ "`"
  | .signed i => "integer `" ++ toString i ++ "`"
  | .float bits => "floating point `" ++ Decimal.Layout.pointed.render .double bits ++ "`"
  | .str s => "string " ++ Text.quote s
  | .unit => "null"
  | .seq => "sequence"
  | .map => "map"

/-- What a number found in the text is. -/
def Number.unexpected : Number → Unexpected
  | .unsigned n => .unsigned n
  | .negative i => .signed i
  | .double bits => .float bits

/-- Why a JSON text is not a value of the expected type. -/
inductive DecodeError where
  | malformed (fault : SyntaxFault)
  | invalidType (found : Unexpected) (expected : String)
  | invalidValue (found : Unexpected) (expected : String)
  | invalidLength (length : Nat) (expected : String)
  | unknownField (name : String) (fields : List String)
  | missingField (name : String)
  | duplicateField (name : String)
  | custom (message : String)
  deriving DecidableEq, Repr

/-- Field names as a list of choices: `` `a` ``, `` `a` or `b` ``, `` one of `a`, `b`, `c` ``. -/
def choices (names : List String) : String :=
  let ticked := names.map fun n => "`" ++ n ++ "`"
  match ticked with
  | [] => "there are no fields"
  | [a] => "expected " ++ a
  | [a, b] => "expected " ++ a ++ " or " ++ b
  | _ => "expected one of " ++ ", ".intercalate ticked

/-- The message of a decoding error. -/
def DecodeError.message : DecodeError → String
  | .malformed fault => fault.message
  | .invalidType found expected => "invalid type: " ++ found.describe ++ ", expected " ++ expected
  | .invalidValue found expected => "invalid value: " ++ found.describe ++ ", expected " ++ expected
  | .invalidLength n expected => "invalid length " ++ toString n ++ ", expected " ++ expected
  | .unknownField name fields => "unknown field `" ++ name ++ "`, " ++ choices fields
  | .missingField name => "missing field `" ++ name ++ "`"
  | .duplicateField name => "duplicate field `" ++ name ++ "`"
  | .custom message => message

end Json
end Dimensional
