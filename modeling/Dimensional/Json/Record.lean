import Dimensional.Json.Decoder
import Dimensional.Quantity

/-!
Quantities as JSON records. The plain record of a quantity is its payload alone: an element is a
number (`null` when it is not finite), a vector is the map `{"x":…,"y":…}`. The tagged record
adds the dimension, `{"value":…,"dimension":[l,m,t,θ,a]}`, and reading it back refuses a
dimension other than the quantity's own; a record without a dimension is taken as it is.

Reading follows the steps of `Decoder`: a vector is read from a map with its field names
(other keys are skipped, a repeated one is refused, the first missing one is named) or from a
sequence of exactly its components; an element is read from a number, an integer being rounded
once to the element type.
-/

namespace Dimensional
namespace Json

variable {β : Type}

/-- A number as an element: an integer rounded once to the element's format, a double
converted to it. -/
def Number.toScalar {α : Type} [Scalar α] : Number → α
  | .unsigned n => Scalar.ofBits ((Scalar.format α).roundRatio false n 1)
  | .negative i => Scalar.ofBits ((Scalar.format α).roundRatio true i.natAbs 1)
  | .double bits => Scalar.ofDouble (Double.ofBits bits)

namespace Decoder

/-- An element of a binary format. -/
def scalar (α : Type) [Scalar α] : Decoder α := Number.toScalar <$> expectNumber (Scalar.typeName α)

/-- A 32-bit integer; other integers are refused as values, other numbers as types. -/
def int32 : Decoder Int32 := do
  match ← expectNumber "i32" with
  | .unsigned n => if n < 2 ^ (31 : Nat) then pure n.toInt32 else throw (.invalidValue (.unsigned n) "i32")
  | .negative i => if -2 ^ (31 : Nat) ≤ i then pure i.toInt32 else throw (.invalidValue (.signed i) "i32")
  | .double bits => throw (.invalidType (.float bits) "i32")

/-- `count` items of a sequence whose item `index` is next; a sequence that ends sooner is
refused with its length. -/
def items (expected : String) (item : Decoder β) (index : Nat) : (count : Nat) → Decoder (List β)
  | 0 => pure []
  | count + 1 => do
    match ← seqElement? (index == 0) item with
    | none => throw (.invalidLength index expected)
    | some x => return x :: (← items expected item (index + 1) count)

/-- A sequence of exactly `count` items. -/
def sequence (expected : String) (count : Nat) (item : Decoder β) : Decoder (List β) := do
  match ← peek? with
  | none => fail .eofWhileParsingValue
  | some '[' =>
    eat
    let xs ← items expected item 0 count
    endSeq
    pure xs
  | some _ => throw (← invalidType expected)

/-- The members of a map with the given field names, filling one slot per name. -/
def fields (names : List String) (item : Decoder β) :
    (fuel : Nat) → (first : Bool) → List (Option β) → Decoder (List (Option β))
  | 0, _, _ => fail .eofWhileParsingObject
  | fuel + 1, first, slots => do
    match ← mapKey? first with
    | none => pure slots
    | some key =>
      match names.idxOf? key with
      | some i =>
        if (slots.getD i none).isSome then throw (.duplicateField key)
        colon
        let x ← item
        fields names item fuel false (slots.set i (some x))
      | none =>
        colon
        skip
        fields names item fuel false slots

/-- The value of every field, or the first missing one. -/
def present : List String → List (Option β) → Except DecodeError (List β)
  | name :: names, slot :: slots =>
    match slot with
    | some x => (x :: ·) <$> present names slots
    | none => .error (.missingField name)
  | _, _ => .ok []

/-- A structure with the given field names, from a map or from a sequence of its fields. -/
def record (name : String) (names : List String) (item : Decoder β) : Decoder (List β) := do
  match ← peek? with
  | none => fail .eofWhileParsingValue
  | some '[' =>
    eat
    let xs ← items (name ++ " with " ++ toString names.length ++ " elements") item 0 names.length
    endSeq
    pure xs
  | some '\x7b' =>
    eat
    let slots ← fields names item ((← get).length + 1) true (names.map fun _ => none)
    let xs ← liftM (present names slots)
    endMap
    pure xs
  | some _ => throw (← invalidType name)

/-- A dimension: a sequence of five 32-bit integers. -/
def exponents : Decoder Exponents := do
  let xs ← sequence "an array of length 5" 5 int32
  pure ((Exponents.ofList? xs).getD .dimensionless)

end Decoder

/-- Payloads that have a JSON record. -/
class Record (P : Type) where
  /-- The record text of a payload. -/
  write : P → String
  /-- Reads a payload. -/
  read : Decoder P

/-- The record text of an element: shortest digits, `null` when not finite. -/
def scalarText {α : Type} [Scalar α] (x : α) : String :=
  if Scalar.isFinite x then (recordLayout (Scalar.format α)).render (Scalar.format α) (Scalar.toBits x)
  else "null"

/-- The record text of a map with the given field names. -/
def mapText (fields : List (String × String)) : String :=
  "\x7b" ++ ",".intercalate (fields.map fun (k, v) => quote k ++ ":" ++ v) ++ "\x7d"

instance {α : Type} [Scalar α] : Record α where
  write := scalarText
  read := Decoder.scalar α

instance {α : Type} [Scalar α] : Record (Vector2 α) where
  write v := mapText [("x", scalarText v.x), ("y", scalarText v.y)]
  read := do
    match ← Decoder.record "struct Vector2" ["x", "y"] (Decoder.scalar α) with
    | [x, y] => pure ⟨x, y⟩
    | _ => Decoder.fail .eofWhileParsingValue

instance {α : Type} [Scalar α] : Record (Vector3 α) where
  write v := mapText [("x", scalarText v.x), ("y", scalarText v.y), ("z", scalarText v.z)]
  read := do
    match ← Decoder.record "struct Vector3" ["x", "y", "z"] (Decoder.scalar α) with
    | [x, y, z] => pure ⟨x, y, z⟩
    | _ => Decoder.fail .eofWhileParsingValue

/-- The record text of a dimension: `[1,0,-1,0,0]`. -/
def exponentsText (e : Exponents) : String :=
  "[" ++ ",".intercalate (e.toList.map fun n => toString n.toInt) ++ "]"

namespace Decoder

/-- The members of a tagged record: its value and its dimension, each at most once. -/
def taggedFields {P : Type} (value : Decoder P) :
    (fuel : Nat) → (first : Bool) → Option P → Option Exponents →
      Decoder (Option P × Option Exponents)
  | 0, _, _, _ => fail .eofWhileParsingObject
  | fuel + 1, first, v, e => do
    match ← mapKey? first with
    | none => pure (v, e)
    | some "value" =>
      if v.isSome then throw (.duplicateField "value")
      colon
      let x ← value
      taggedFields value fuel false (some x) e
    | some "dimension" =>
      if e.isSome then throw (.duplicateField "dimension")
      colon
      let x ← exponents
      taggedFields value fuel false v (some x)
    | some key => throw (.unknownField key ["value", "dimension"])

end Decoder

end Json

namespace Quantity

open Json

variable {d : Exponents} {P : Type} [Record P]

/-- The plain record: the payload alone. -/
def plainText (q : Quantity d P) : String := Record.write q.value

/-- The tagged record: the payload and the dimension. -/
def taggedText (q : Quantity d P) : String :=
  mapText [("value", Record.write q.value), ("dimension", exponentsText d)]

/-- Reads a plain record. -/
def readPlain : Decoder (Quantity d P) := Quantity.mk <$> Record.read

/-- What a tagged record is described as. -/
def taggedName : String := "struct Quantity with value and dimension fields"

/-- Reads a tagged record; a dimension other than `d` is refused. -/
def readTagged : Decoder (Quantity d P) := do
  match ← Decoder.peek? with
  | none => Decoder.fail .eofWhileParsingValue
  | some '\x7b' =>
    Decoder.eat
    let (v, e) ← Decoder.taggedFields Record.read ((← get).length + 1) true none none
    let some x := v | throw (.missingField "value")
    if let some found := e then
      if found != d then
        throw (.custom ("dimension mismatch: expected " ++ d.render ++ ", found " ++ found.render))
    Decoder.endMap
    pure ⟨x⟩
  | some _ => throw (← Decoder.invalidType taggedName)

/-- A whole text as a plain record. -/
def ofPlainText (text : String) : Except DecodeError (Quantity d P) :=
  Decoder.run readPlain text

/-- A whole text as a tagged record. -/
def ofTaggedText (text : String) : Except DecodeError (Quantity d P) :=
  Decoder.run readTagged text

end Quantity

end Dimensional
