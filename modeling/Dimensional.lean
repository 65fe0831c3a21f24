import Dimensional.Decimal.Binary
import Dimensional.Decimal.Shortest
import Dimensional.Decimal.Nearest
import Dimensional.Decimal.Layout
import Dimensional.Decimal.CubeRoot
import Dimensional.Decimal.Reading
import Dimensional.Decimal.Arithmetic
import Dimensional.Double
import Dimensional.Text.Blank
import Dimensional.Text.Escapes
import Dimensional.Text.Quoted
import Dimensional.Exponents
import Dimensional.Json.Value
import Dimensional.Json.Number
import Dimensional.Scalar
import Dimensional.Unit
import Dimensional.Units.Prefix
import Dimensional.Units.Builtin
import Dimensional.ParseError
import Dimensional.Signature.Term
import Dimensional.Signature
import Dimensional.Magnitude
import Dimensional.Registry.Error
import Dimensional.Registry.Basic
import Dimensional.Registry.Resolve
import Dimensional.Vector
import Dimensional.Payload
import Dimensional.Quantity
import Dimensional.Toml.Value
import Dimensional.Toml.Literal
import Dimensional.Toml.Document
import Dimensional.Registry.Catalog
import Dimensional.Json.DecodeError
import Dimensional.Json.Decoder
import Dimensional.Json.Record
import Dimensional.Tokens.Unicode
import Dimensional.Tokens.Tree
import Dimensional.Tokens.Lexer
import Dimensional.Tokens.Number
import Dimensional.Literals.Expand
import Dimensional.Literals.Evaluate
import Dimensional.Proofs.Signature
import Dimensional.Proofs.Double
import Dimensional.Proofs.Registry
import Dimensional.Proofs.Resolve
import Dimensional.Proofs.Catalog
import Dimensional.Proofs.Symbols
import Dimensional.Proofs.Extension
import Dimensional.Proofs.Expansion
import Dimensional.Proofs.Json.Numbers
import Dimensional.Proofs.Json.Values
import Dimensional.Proofs.Json.Records
import Dimensional.Proofs.Json.Tagged
import Dimensional.Proofs.Powers
import Dimensional.Proofs.DimensionText
import Dimensional.Proofs.Magnitude
import Dimensional.Proofs.Axes
import Dimensional.Proofs.QuantityText
import Dimensional.Proofs.Reexpansion
import Dimensional.Proofs.Utf8
import Dimensional.Proofs.Boundaries
