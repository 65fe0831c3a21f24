import Dimensional.Literals.Expand
import Dimensional.Units.Builtin

/-!
# Evaluating unit-literal expressions

After expansion, an expression with unit literals is ordinary arithmetic on quantities. This
module evaluates the expressions of that kind: unit calls, number, boolean, string and
character literals, tuples `(a, b)` with fields `.0`, `.1`, …, arrays `[a, b]` with indexing,
blocks `{ e }`, unary minus, and the binary operators `*` `/` over `+` `-` over `==` `!=`,
each level left-associative.

The arithmetic is that of quantities: a sum needs one dimension, a product adds the exponents
and a quotient subtracts them, and a product or quotient without dimension is a plain number.
A number scales a quantity from either side; a number divided by a quantity has the inverse
dimension. Unsuffixed float literals are doubles. An expression that is not of this kind, or
mixes dimensions in a sum, has no value.
-/

namespace Dimensional
namespace Literals

open Tokens

/-- The value of an expression. -/
inductive Value where
  /-- A quantity: its dimension and its value in base units. -/
  | quantity (exponents : Exponents) (value : Double)
  | double (x : Double)
  | single (x : Single)
  /-- An integer with its type suffix (empty when it has none). -/
  | integer (n : Int) (suffix : String)
  | bool (b : Bool)
  /-- A string, character or byte literal, as written. -/
  | text (source : String)
  | tuple (items : List Value)
  | array (items : List Value)
  deriving Repr, Inhabited

/-- Integer type suffixes. -/
def integerSuffixes : List String :=
  ["", "i8", "i16", "i32", "i64", "i128", "isize", "u8", "u16", "u32", "u64", "u128", "usize"]

/-- The single a string of base-10 digits denotes, correctly rounded. -/
def singleValue? (digits : String) : Option Single :=
  (Decimal.readFloat? .single digits).map fun bits => Single.ofBits bits

namespace Value

/-- The value of a literal token that expansion kept. -/
def ofLiteral (text : String) : Option Value :=
  match Numeric.classify text with
  | .integer digits suffix =>
    if suffix = "f64" then double <$> base10Value? digits
    else if suffix = "f32" then single <$> singleValue? digits
    else if integerSuffixes.contains suffix then (integer · suffix) <$> digits.toInt?
    else none
  | .float digits suffix =>
    if suffix = "" || suffix = "f64" then double <$> base10Value? digits
    else if suffix = "f32" then single <$> singleValue? digits
    else none
  | .other => some (Value.text text)

/-- A result of dimension `e`: a plain number when `e` is dimensionless. -/
def collapse (e : Exponents) (x : Double) : Value :=
  if e = Exponents.dimensionless then double x else quantity e x

/-- Integers of two suffixes combine when the suffixes agree or one of them is empty. -/
def joinSuffix (s t : String) : Option String :=
  if s = t || t = "" then some s else if s = "" then some t else none

/-- The sum. -/
def add : Value → Value → Option Value
  | quantity e x, quantity f y => if e = f then some (quantity e (x + y)) else none
  | double x, double y => some (double (x + y))
  | single x, single y => some (single (x + y))
  | integer a s, integer b t => (integer (a + b)) <$> joinSuffix s t
  | _, _ => none

/-- The difference. -/
def sub : Value → Value → Option Value
  | quantity e x, quantity f y => if e = f then some (quantity e (x - y)) else none
  | double x, double y => some (double (x - y))
  | single x, single y => some (single (x - y))
  | integer a s, integer b t => (integer (a - b)) <$> joinSuffix s t
  | _, _ => none

/-- The product. -/
def mul : Value → Value → Option Value
  | quantity e x, quantity f y => some (collapse (e.add f) (x * y))
  | quantity e x, double y => some (quantity e (x * y))
  | double x, quantity e y => some (quantity e (x * y))
  | double x, double y => some (double (x * y))
  | single x, single y => some (single (x * y))
  | integer a s, integer b t => (integer (a * b)) <$> joinSuffix s t
  | _, _ => none

/-- The quotient. -/
def div : Value → Value → Option Value
  | quantity e x, quantity f y => some (collapse (e.sub f) (x / y))
  | quantity e x, double y => some (quantity e (x / y))
  | double x, quantity e y => some (collapse (Exponents.dimensionless.sub e) (x / y))
  | double x, double y => some (double (x / y))
  | single x, single y => some (single (x / y))
  | _, _ => none

/-- IEEE equality of values of one type. -/
def equal : Value → Value → Option Bool
  | quantity e x, quantity f y => if e = f then some (x == y) else none
  | double x, double y => some (x == y)
  | single x, single y => some (x == y)
  | integer a s, integer b t => (fun _ => a == b) <$> joinSuffix s t
  | bool a, bool b => some (a == b)
  | _, _ => none

/-- The negation. -/
def neg : Value → Option Value
  | quantity e x => some (quantity e (-x))
  | double x => some (double (-x))
  | single x => some (single (-x))
  | integer n s => some (integer (-n) s)
  | _ => none

/-- Item `i` of an array. -/
def index : Value → Value → Option Value
  | array items, integer i _ => if 0 ≤ i then items[i.toNat]? else none
  | _, _ => none

/-- Field `n` of a tuple, written as an unsuffixed integer literal. -/
def field (v : Value) (n : String) : Option Value :=
  match v, Numeric.classify n with
  | tuple items, .integer digits "" => digits.toNat?.bind (items[·]?)
  | _, _ => none

end Value

/-- The binary operators, from the loosest binding. -/
inductive BinaryOp where
  | eq | ne | add | sub | mul | div
  deriving DecidableEq, Repr

namespace BinaryOp

/-- How tightly the operator binds. -/
def precedence : BinaryOp → Nat
  | eq | ne => 1
  | add | sub => 2
  | mul | div => 3

/-- Applies the operator. -/
def apply : BinaryOp → Value → Value → Option Value
  | eq, a, b => Value.bool <$> a.equal b
  | ne, a, b => (fun r => Value.bool !r) <$> a.equal b
  | add, a, b => a.add b
  | sub, a, b => a.sub b
  | mul, a, b => a.mul b
  | div, a, b => a.div b

/-- The operator at the head of a token sequence, and the rest. -/
def read? : List TokenTree → Option (BinaryOp × List TokenTree)
  | .punct '=' :: .punct '=' :: rest => some (eq, rest)
  | .punct '!' :: .punct '=' :: rest => some (ne, rest)
  | .punct '+' :: rest => some (add, rest)
  | .punct '-' :: rest => some (sub, rest)
  | .punct '*' :: rest => some (mul, rest)
  | .punct '/' :: rest => some (div, rest)
  | _ => none

end BinaryOp

/-- The quantity of a unit call `unit(number)`. -/
def unitValue (unit number : String) : Option Value := do
  let entry ← Units.entry? unit
  let x ← base10Value? number
  pure (.quantity entry.unit.exponents (entry.unit.of x))

mutual

/-- An expression whose operators bind at least as tightly as `minPrec`. `fuel` bounds the
depth of the evaluation. -/
def expression : Nat → Nat → List TokenTree → Option (Value × List TokenTree)
  | 0, _, _ => none
  | fuel + 1, minPrec, ts => do
    let (lhs, rest) ← unary fuel ts
    operators fuel minPrec lhs rest

/-- Applies the binary operators that follow a left operand. -/
def operators : Nat → Nat → Value → List TokenTree → Option (Value × List TokenTree)
  | 0, _, _, _ => none
  | fuel + 1, minPrec, lhs, ts =>
    match BinaryOp.read? ts with
    | some (op, rest) =>
      if op.precedence ≥ minPrec then do
        let (rhs, rest) ← expression fuel (op.precedence + 1) rest
        let v ← op.apply lhs rhs
        operators fuel minPrec v rest
      else some (lhs, ts)
    | none => some (lhs, ts)

/-- An operand, with unary minus. -/
def unary : Nat → List TokenTree → Option (Value × List TokenTree)
  | 0, _ => none
  | fuel + 1, .punct '-' :: rest => do
    let (v, rest) ← unary fuel rest
    pure (← v.neg, rest)
  | fuel + 1, ts => do
    let (v, rest) ← primary fuel ts
    selectors fuel v rest

/-- Indexing and tuple fields after an operand. -/
def selectors : Nat → Value → List TokenTree → Option (Value × List TokenTree)
  | 0, _, _ => none
  | fuel + 1, v, .group .bracket inner :: rest => do
    let (i, after) ← expression fuel 0 inner
    if !after.isEmpty then none
    selectors fuel (← v.index i) rest
  | fuel + 1, v, .punct '.' :: .literal n :: rest => do
    selectors fuel (← v.field n) rest
  | _ + 1, v, ts => some (v, ts)

/-- A literal, a unit call, a boolean, a parenthesized expression or tuple, an array or a
block. -/
def primary : Nat → List TokenTree → Option (Value × List TokenTree)
  | 0, _ => none
  | fuel + 1, ts =>
    match ts with
    | .punct ':' :: .punct ':' :: .ident "dimsafe" :: .punct ':' :: .punct ':' :: .ident "literals" ::
        .punct ':' :: .punct ':' :: .ident unit :: .group .parenthesis [.literal number] :: rest =>
      (·, rest) <$> unitValue unit number
    | .literal text :: rest => (·, rest) <$> Value.ofLiteral text
    | .ident "true" :: rest => some (.bool true, rest)
    | .ident "false" :: rest => some (.bool false, rest)
    | .group .parenthesis inner :: rest => do
      let (items, comma) ← commaList fuel inner
      match items, comma with
      | [v], false => pure (v, rest)
      | _, _ => pure (.tuple items, rest)
    | .group .bracket inner :: rest => do
      let (items, _) ← commaList fuel inner
      pure (.array items, rest)
    | .group .brace inner :: rest => do
      let (v, after) ← expression fuel 0 inner
      if !after.isEmpty then none
      pure (v, rest)
    | _ => none

/-- Comma-separated expressions, and whether a comma was seen. -/
def commaList : Nat → List TokenTree → Option (List Value × Bool)
  | 0, _ => none
  | _ + 1, [] => some ([], false)
  | fuel + 1, ts => do
    let (v, rest) ← expression fuel 0 ts
    match rest with
    | [] => pure ([v], false)
    | .punct ',' :: more => do
      let (vs, _) ← commaList fuel more
      pure (v :: vs, true)
    | _ => none

end

/-- The value of a source expression with unit literals, if it has one. -/
def evaluate (source : String) : Option Value := do
  let trees ← (expand source).toOption
  let (v, rest) ← expression (4 * source.length + 8) 0 trees
  if rest.isEmpty then some v else none

end Literals
end Dimensional
