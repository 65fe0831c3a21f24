import Dimensional.Registry.Error
import Dimensional.Units.Builtin
import Dimensional.Text.Blank
import Dimensional.Decimal.Reading

/-!
Registries: tables from unit symbols to units. A registry is a list of entries with distinct
symbols, in the order they were added, and it is changed in place (`Update`). `insert` checks an
entry's own rules first, then whether its symbol is taken, and only then adds it. The built-in
registry holds the built-in units and, under each alias, a copy of the unit it names.
-/

namespace Dimensional

/-- A table from unit symbols to units. -/
structure Registry where
  entries : List (String × UnitDef)
  deriving Inhabited

namespace Registry

/-- The registry with no symbol. -/
def empty : Registry := ⟨[]⟩

/-- The built-in units, then the aliases. -/
def builtin : Registry :=
  let units := Units.entries.map fun e => (e.symbol, e.unit)
  ⟨units ++ Units.aliases.filterMap fun (spelling, target) =>
    (units.lookup target).map fun u => (spelling, u)⟩

/-- The unit registered under `symbol`. -/
def find? (r : Registry) (symbol : String) : Option UnitDef := r.entries.lookup symbol

/-- Whether `symbol` is registered. -/
def contains (r : Registry) (symbol : String) : Bool := (r.find? symbol).isSome

/-- The number of registered symbols. -/
def size (r : Registry) : Nat := r.entries.length

/-- The registered symbols in code-point order, which is the byte order of their UTF-8 text. -/
def symbols (r : Registry) : List String :=
  (r.entries.map (·.1)).mergeSort fun a b => decide (a ≤ b)

/-- Whether `c` may not stand in a symbol: a blank or an operator of signatures. -/
def isForbidden (c : Char) : Bool :=
  Text.isBlank c || c = '*' || c = '·' || c = '/' || c = '^'

/-- Checks the rules of an entry: a symbol that is not empty, does not start like a number and
holds no blank or operator; a finite non-zero factor; a finite offset. -/
def validate (symbol : String) (u : UnitDef) : Except RegistryError Unit :=
  match symbol.toList with
  | [] => .error (.invalidEntry symbol .emptySymbol)
  | c :: _ =>
    if Decimal.isDigit c || c = '+' || c = '-' || c = '.' then
      .error (.invalidEntry symbol .numberLikeStart)
    else if symbol.toList.any isForbidden then .error (.invalidEntry symbol .operatorInSymbol)
    else
      let (factor, offset) := match u.ratio with
        | .scale f => (f, 0.0)
        | .affine o f => (f, o)
      if !factor.isFinite || factor == 0.0 then .error (.invalidEntry symbol .badFactor)
      else if !offset.isFinite then .error (.invalidEntry symbol .badOffset)
      else .ok ()

/-- A change made in place to a registry. It answers a value or a refusal, and either way leaves
the registry as far as the change got. -/
abbrev Update := EStateM RegistryError Registry

/-- The registry a change leaves, whether it answered or refused. -/
def Update.after {α : Type} (x : Update α) (r : Registry) : Registry :=
  match x.run r with
  | .ok _ r' => r'
  | .error _ r' => r'

/-- Makes a change on a copy of `r`: the copy as the change leaves it, or the refusal, and the copy
is dropped. -/
def Update.onCopy {α : Type} (x : Update α) (r : Registry) : Except RegistryError Registry :=
  match x.run r with
  | .ok _ r' => .ok r'
  | .error e _ => .error e

/-- Adds an entry that keeps the rules under a symbol that is not taken. -/
def insert (symbol : String) (u : UnitDef) : Update Unit := do
  ofExcept (validate symbol u)
  let r ← get
  if r.contains symbol then throw (.duplicateSymbol symbol)
  else set (⟨r.entries ++ [(symbol, u)]⟩ : Registry)

end Registry

end Dimensional
