import NodeKit.Json.Path
import NodeKit.FileName
import NodeKit.Rust.Literal

/-!
Why a schema cannot be used. A schema fails to load when its file cannot be read, its text or
value cannot be decoded (the message names the path of the failing value), or a JSON pointer
selects nothing; it fails validation when it is empty, a type is defined twice, a name is not a
usable identifier, a field collides with the discriminant or has inconsistent constant flags, a
literal cannot be rendered, a group shadows a type, or two declarations give rise to the same
generated name. `message` gives the wording of each.
-/

namespace NodeKit

/-- What kind of name failed the identifier check. -/
inductive NameRole where
  | typeName
  | displayTypeName
  | fieldName
  | groupTag
  | generatedFunction
deriving DecidableEq, Repr

/-- How a name's role is written in a message. -/
def NameRole.text : NameRole → String
  | .typeName => "type name"
  | .displayTypeName => "display type name"
  | .fieldName => "field name"
  | .groupTag => "group tag"
  | .generatedFunction => "generated function name"

/-- Why a schema cannot be used. -/
inductive SchemaError where
  /-- The file at `path` could not be read. -/
  | io (path : String) (fault : ReadFault)
  /-- The document `origin` could not be decoded: at `path`, for the reason `detail`. -/
  | parse (origin : String) (path : Json.Path) (detail : String)
  | pointer (origin : String) (pointer : String)
  | empty
  | duplicateType (name : String)
  | invalidName (role : NameRole) (name : String)
  | reservedField (typeName field : String)
  | constantOptional (typeName field : String)
  | constantWithoutValue (typeName field : String)
  | valueWithoutConstant (typeName field : String)
  | invalidLiteral (typeName field message : String)
  | groupShadowsType (group : String)
  | nameCollision (name first second : String)
deriving Repr

namespace SchemaError

/-- The name of the error's variant. -/
def variant : SchemaError → String
  | .io .. => "Io"
  | .parse .. => "Parse"
  | .pointer .. => "Pointer"
  | .empty => "Empty"
  | .duplicateType .. => "DuplicateType"
  | .invalidName .. => "InvalidName"
  | .reservedField .. => "ReservedField"
  | .constantOptional .. => "ConstantOptional"
  | .constantWithoutValue .. => "ConstantWithoutValue"
  | .valueWithoutConstant .. => "ValueWithoutConstant"
  | .invalidLiteral .. => "InvalidLiteral"
  | .groupShadowsType .. => "GroupShadowsType"
  | .nameCollision .. => "NameCollision"

/-- The wording of an error. -/
def message : SchemaError → String
  | .io path fault => "invalid schema: failed to read " ++ path ++ ": " ++ fault.message
  | .parse origin path detail =>
    "invalid schema: failed to parse " ++ origin ++ ": at JSON path " ++ path.text ++ " → " ++
      detail
  | .pointer origin ptr =>
    "invalid schema: JSON pointer " ++ ptr ++ " selects nothing in " ++ origin
  | .empty => "invalid schema: no type definitions"
  | .duplicateType name => "invalid schema: type " ++ name ++ " is defined more than once"
  | .invalidName role name =>
    "invalid schema: " ++ role.text ++ " " ++ Rust.quote name ++ " is not a usable identifier"
  | .reservedField t f =>
    "invalid schema: " ++ t ++ "." ++ f ++ " collides with the `type` discriminant"
  | .constantOptional t f =>
    "invalid schema: " ++ t ++ "." ++ f ++ " cannot be both constant and optional"
  | .constantWithoutValue t f =>
    "invalid schema: " ++ t ++ "." ++ f ++ " is constant but has no value"
  | .valueWithoutConstant t f =>
    "invalid schema: " ++ t ++ "." ++ f ++ " has a value but is not constant"
  | .invalidLiteral t f msg => "invalid schema: " ++ t ++ "." ++ f ++ ": " ++ msg
  | .groupShadowsType g => "invalid schema: group " ++ g ++ " has the same name as a type"
  | .nameCollision name first second =>
    "invalid schema: generated name " ++ name ++ " is derived from both " ++ first ++ " and " ++
      second

end SchemaError

end NodeKit
