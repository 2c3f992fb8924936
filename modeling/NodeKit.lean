import NodeKit.Binary64
import NodeKit.Decimal.Shortest
import NodeKit.Decimal.Notation
import NodeKit.Decimal.Nearest
import NodeKit.Text.Ranges
import NodeKit.Text.Printable
import NodeKit.Text.GraphemeExtend
import NodeKit.Rust.Literal
import NodeKit.Json.Value
import NodeKit.Json.Path
import NodeKit.Json.Cursor
import NodeKit.Json.Read.Number
import NodeKit.Json.Read.String
import NodeKit.Json.Read
import NodeKit.Json.Write
import NodeKit.Naming.Snake
import NodeKit.Rust.Ident
import NodeKit.Rust.Evaluate
import NodeKit.Naming.Scheme
import NodeKit.LogLevel
import NodeKit.FileName
import NodeKit.Schema.Basic
import NodeKit.Schema.Error
import NodeKit.Schema.Decode
import NodeKit.Json.Pointer
import NodeKit.Schema.Source
import NodeKit.Literal
import NodeKit.Validate
import NodeKit.Group
import NodeKit.Plan
import NodeKit.Rust.Module
import NodeKit.Generate
import NodeKit.Builder
import NodeKit.Main
import NodeKit.Proofs.Except
import NodeKit.Proofs.Validation
import NodeKit.Proofs.Emission
import NodeKit.Proofs.Build
import NodeKit.Proofs.ModuleNames
import NodeKit.Proofs.Construction
import NodeKit.Proofs.Identifiers
import NodeKit.Proofs.LiteralTokens
import NodeKit.Proofs.LiteralValues
import NodeKit.Proofs.Groups
import NodeKit.Proofs.Guards
import NodeKit.Proofs.Defaults
import NodeKit.Proofs.Rebuild
import NodeKit.Proofs.CallParams
import NodeKit.Proofs.CallAgreement
import NodeKit.Proofs.Merge
import NodeKit.Proofs.SnakeCase
import NodeKit.Proofs.SchemaDocument
import NodeKit.Rust.Items
import NodeKit.Proofs.LineText
import NodeKit.Proofs.ModuleItems
