import Dimensional.Tokens.Number
import Dimensional.Scalar

/-!
# Unit literals

A numeric literal whose suffix names a unit stands for a quantity: `1_km` is the unit call
`::dimsafe::literals::km(1.0)`. `expandLiterals` replaces every such literal in a token sequence, in
groups too, and keeps every other token. A literal is left alone when its suffix is empty or is
one the compiler gives meaning to (`7u8`, `1.5f32`). The number in the call is the literal's
base-10 value as a double, written as a float (`1000.0`, `0.0015`, and `1e300` in full); a value
that is not finite is refused with the literal's text.
-/

namespace Dimensional
namespace Literals

open Tokens

/-- Suffixes the compiler gives meaning to. -/
def primitiveSuffixes : List String :=
  ["i8", "i16", "i32", "i64", "i128", "isize", "u8", "u16", "u32", "u64", "u128", "usize", "f32", "f64"]

/-- Why a literal cannot be expanded. -/
inductive LiteralError where
  /-- The value of the literal is not a finite double. -/
  | tooLarge (literal : String)
  /-- The digits of the literal do not read as a double. -/
  | unreadable (literal : String)
  deriving DecidableEq, Repr

/-- The message of a literal error. -/
def LiteralError.message : LiteralError → String
  | .tooLarge literal => "`" ++ literal ++ "` does not fit in an f64"
  | .unreadable _ => "invalid float literal"

/-- A double written as a float literal: its shortest digits, never with an exponent, and
`.0` added when there is no point. -/
def floatText (x : Double) : String := Decimal.Layout.pointed.render .double x.toBits

/-- The call of the unit function `unit` on `value`. -/
def unitCall (unit : String) (value : Double) : List TokenTree :=
  [.punct ':', .punct ':', .ident "dimsafe", .punct ':', .punct ':', .ident "literals",
    .punct ':', .punct ':', .ident unit, .group .parenthesis [.literal (floatText value)]]

/-- The tokens a literal stands for. -/
def expandLiteral (text : String) : Except LiteralError (List TokenTree) :=
  let unitLiteral (digits suffix : String) : Except LiteralError (List TokenTree) :=
    if suffix.isEmpty || primitiveSuffixes.contains suffix then .ok [.literal text]
    else
      match base10Value? digits with
      | none => .error (.unreadable text)
      | some v => if Scalar.isFinite v then .ok (unitCall suffix v) else .error (.tooLarge text)
  match Numeric.classify text with
  | .integer digits suffix => unitLiteral digits suffix
  | .float digits suffix => unitLiteral digits suffix
  | .other => .ok [.literal text]

/-- Expands every unit literal of a token sequence, inside groups too; the first literal that
cannot be expanded, in reading order, is the error. -/
def expandLiterals : List TokenTree → Except LiteralError (List TokenTree)
  | [] => .ok []
  | .group d inner :: rest => do
    let inner ← expandLiterals inner
    let rest ← expandLiterals rest
    pure (.group d inner :: rest)
  | .literal text :: rest => do
    let tokens ← expandLiteral text
    let rest ← expandLiterals rest
    pure (tokens ++ rest)
  | t :: rest => (t :: ·) <$> expandLiterals rest

/-- Why a source text cannot be expanded. -/
inductive ExpandError where
  /-- The text is not a token sequence. -/
  | lex
  | literal (e : LiteralError)
  deriving DecidableEq, Repr

/-- Reads a source text and expands its unit literals. -/
def expand (source : String) : Except ExpandError (List TokenTree) :=
  match tokenize? source with
  | none => .error .lex
  | some trees => (expandLiterals trees).mapError .literal

end Literals
end Dimensional
