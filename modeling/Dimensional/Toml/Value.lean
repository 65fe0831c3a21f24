import Dimensional.Double
/-!
Values of TOML documents: strings, 64-bit integers, floats, booleans, date-times (kept as
written), arrays and tables. A table keeps its keys in the order they were written.
-/

namespace Dimensional
namespace Toml

/-- A TOML value. -/
inductive Value where
  | string (s : String)
  | integer (i : Int)
  | float (x : Double)
  | boolean (b : Bool)
  | datetime (text : String)
  | array (items : List Value)
  | table (fields : List (String × Value))
  deriving Inhabited

/-- Replaces the value under `key` in a list of fields. -/
def setField {β : Type} (fields : List (String × β)) (key : String) (v : β) : List (String × β) :=
  fields.map fun (k, w) => if k = key then (k, v) else (k, w)

namespace Value

/-- Inserts `v` under a dotted key into the fields of an inline table, creating the tables on
the way; a key that is already there, or that passes through a value that is no table, is
refused. -/
def insertDotted (v : Value) : List String → List (String × Value) → Except String (List (String × Value))
  | [], _ => .error "empty key"
  | [k], fields =>
    if (fields.lookup k).isSome then .error ("duplicate key " ++ k) else .ok (fields ++ [(k, v)])
  | k :: rest, fields =>
    match fields.lookup k with
    | none => do pure (fields ++ [(k, .table (← insertDotted v rest []))])
    | some (.table sub) => do pure (setField fields k (.table (← insertDotted v rest sub)))
    | some _ => .error ("key " ++ k ++ " is not a table")

end Value

end Toml
end Dimensional
