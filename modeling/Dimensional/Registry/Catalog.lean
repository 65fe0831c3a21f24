import Dimensional.Registry.Resolve
import Dimensional.Toml.Document

/-!
Unit catalogs: TOML documents whose `[[unit]]` tables add units to a registry. An entry has a
`symbol` and either a `definition` in quantity text (`"201.168 m"`) or a `factor`, with an
optional `offset` and `dimension`. A catalog is read whole before any entry is applied; the
entries are then applied in order to a copy of the registry, each seeing the ones before it,
and the copy replaces the registry once every entry is accepted.
-/

namespace Dimensional

/-- One `[[unit]]` table of a catalog. -/
structure CatalogEntry where
  symbol : String
  definition : Option String
  factor : Option Double
  offset : Option Double
  dimension : Option Exponents

namespace CatalogEntry

/-- The keys an entry may have. -/
def keys : List String := ["symbol", "definition", "factor", "offset", "dimension"]

/-- A number of a catalog: a float, or an integer rounded to the nearest double. -/
def number : Toml.Value → Except String Double
  | .float x => .ok x
  | .integer i =>
    .ok (Double.ofBits (Decimal.BinaryFormat.double.roundDecimal (i < 0) i.natAbs 0))
  | _ => .error "expected a number"

/-- A 32-bit exponent of a catalog. -/
def exponent : Toml.Value → Except String Int32
  | .integer i => if -2 ^ (31 : Nat) ≤ i ∧ i < 2 ^ (31 : Nat) then .ok (Int32.ofInt i) else .error "expected an i32"
  | _ => .error "expected an i32"

/-- A dimension: the first five items of an array, which must have at least five. -/
def dimension? : Toml.Value → Except String Exponents
  | .array (a :: b :: c :: d :: e :: _) => do
    pure ⟨← exponent a, ← exponent b, ← exponent c, ← exponent d, ← exponent e⟩
  | _ => .error "expected an array of length 5"

/-- Reads the field `key` with `read`, if it is there. -/
def optional {β : Type} (fields : List (String × Toml.Value)) (key : String)
    (read : Toml.Value → Except String β) : Except String (Option β) :=
  match fields.lookup key with
  | some v => (read v).map some
  | none => .ok none

/-- The string of a value. -/
def string : Toml.Value → Except String String
  | .string s => .ok s
  | _ => .error "expected a string"

/-- The entry a table states; unknown keys and values of the wrong type are refused. -/
def ofTable (fields : List (String × Toml.Value)) : Except String CatalogEntry := do
  if let some (k, _) := fields.find? (fun (k, _) => !keys.contains k) then
    throw ("unknown field " ++ k)
  let symbol ← match fields.lookup "symbol" with
    | some v => string v
    | none => throw "missing field symbol"
  pure ⟨symbol, ← optional fields "definition" string, ← optional fields "factor" number,
    ← optional fields "offset" number, ← optional fields "dimension" dimension?⟩

/-- Adds the entry to a registry: a definition alone is defined, a factor alone is inserted
with its dimension (dimensionless if none) and, with an offset, as an affine unit. -/
def apply (e : CatalogEntry) : Registry.Update Unit :=
  match e.definition, e.factor with
  | some definition, none =>
    if e.offset.isSome || e.dimension.isSome then throw (.invalidEntry e.symbol .definitionWithLayout)
    else Registry.define e.symbol definition
  | none, some factor =>
    let exponents := e.dimension.getD .dimensionless
    match e.offset with
    | some offset => Registry.insert e.symbol (.affine exponents offset factor)
    | none => Registry.insert e.symbol (.scaled exponents factor)
  | some _, some _ => throw (.invalidEntry e.symbol .definitionAndFactor)
  | none, none => throw (.invalidEntry e.symbol .noDefinitionOrFactor)

end CatalogEntry

/-- The entries of a catalog document; a document without `unit` has none. -/
def catalogEntries (text : String) : Except String (List CatalogEntry) := do
  let root ← Toml.parse text
  match root.lookup "unit" with
  | none => pure []
  | some (.array items) =>
    items.mapM fun
      | .table fields => CatalogEntry.ofTable fields
      | _ => throw "expected a table"
  | some _ => throw "expected an array of tables"

/-- Where catalogs are read from: the text at a path, or why it cannot be read. -/
abbrev Files := String → Except ReadFault String

/-- A file system with no catalog on it: the null device reads as empty, the root is a
directory, and no other path exists. -/
def Files.bare : Files := fun path =>
  if path = "/dev/null" then .ok ""
  else if path = "/" then .error .isDirectory
  else .error .notFound

namespace Registry

/-- Adds every entry of a catalog, in order, and answers their number. The entries are applied to
a copy of the registry, which replaces it once every entry is accepted. -/
def loadCatalog (text : String) : Update Nat := do
  let entries ← ofExcept ((catalogEntries text).mapError .catalog)
  let r ← get
  let staged ← ofExcept ((entries.forM CatalogEntry.apply).onCopy r)
  set staged
  pure entries.length

/-- The built-in registry with a catalog added. -/
def ofCatalog (text : String) : Except RegistryError Registry :=
  (loadCatalog text).onCopy builtin

/-- Adds the catalog at a path. -/
def loadFile (files : Files) (path : String) : Update Nat := do
  let text ← ofExcept ((files path).mapError (.io path))
  loadCatalog text

/-- The built-in registry with the catalog at a path added. -/
def ofFile (files : Files) (path : String) : Except RegistryError Registry :=
  (loadFile files path).onCopy builtin

end Registry

end Dimensional
