import Dimensional.ParseError

/-!
Why a registry refused a change. An entry can break a rule of its own (`EntryFault`), take a
symbol that is already registered, or be defined by text that cannot be read; a catalog can
fail to be read from its path or fail to have the catalog layout.
-/

namespace Dimensional

/-- A rule that a unit entry breaks. -/
inductive EntryFault where
  | emptySymbol
  | numberLikeStart
  | operatorInSymbol
  | badFactor
  | badOffset
  /-- A definition that resolves to an offset unit. -/
  | offsetDefinition
  /-- A catalog entry with a definition and also an offset or a dimension. -/
  | definitionWithLayout
  /-- A catalog entry with both a definition and a factor. -/
  | definitionAndFactor
  /-- A catalog entry with neither a definition nor a factor. -/
  | noDefinitionOrFactor
  deriving DecidableEq, Repr

/-- The reason given for an entry fault. -/
def EntryFault.reason : EntryFault → String
  | .emptySymbol => "symbol is empty"
  | .numberLikeStart => "symbol cannot start like a number"
  | .operatorInSymbol => "symbol cannot contain whitespace or operators"
  | .badFactor => "factor must be finite and non-zero"
  | .badOffset => "offset must be finite"
  | .offsetDefinition => "a definition cannot use an offset unit"
  | .definitionWithLayout => "`definition` excludes `offset` and `dimension`"
  | .definitionAndFactor => "give either `definition` or `factor`, not both"
  | .noDefinitionOrFactor => "missing `definition` or `factor`"

/-- Why a file could not be read. -/
inductive ReadFault where
  | notFound
  | isDirectory
  deriving DecidableEq, Repr

/-- The operating system's text for a read fault. -/
def ReadFault.message : ReadFault → String
  | .notFound => "No such file or directory (os error 2)"
  | .isDirectory => "Is a directory (os error 21)"

/-- Why a registry refused a change. -/
inductive RegistryError where
  /-- The catalog at a path could not be read. -/
  | io (path : String) (fault : ReadFault)
  /-- The catalog is not a document of the catalog layout. -/
  | catalog (detail : String)
  | duplicateSymbol (symbol : String)
  | invalidEntry (symbol : String) (fault : EntryFault)
  /-- The definition text of an entry could not be read. -/
  | definition (symbol : String) (source : ParseError)
  deriving DecidableEq, Repr

/-- The message of a registry error. -/
def RegistryError.message : RegistryError → String
  | .io path fault => "failed to read unit catalog " ++ path ++ ": " ++ fault.message
  | .catalog detail => "failed to parse unit catalog: " ++ detail
  | .duplicateSymbol symbol => "unit symbol " ++ Text.quote symbol ++ " is already registered"
  | .invalidEntry symbol fault => "invalid unit " ++ Text.quote symbol ++ ": " ++ fault.reason
  | .definition symbol source =>
    "invalid definition for unit " ++ Text.quote symbol ++ ": " ++ source.message

end Dimensional
