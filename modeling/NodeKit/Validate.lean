import NodeKit.Schema.Basic
import NodeKit.Schema.Error
import NodeKit.Naming.Scheme
import NodeKit.Literal

/-!
Checking a schema before anything is generated from it. The checks run in a fixed order and the
first failure is the answer: the schema must not be empty; then, type by type, the type name and
display name must be identifiers that are not keywords, the payload and variant names and the
builder, guard and assertion names are claimed, and each field is checked (not the discriminant,
an identifier whose generated name is usable and unclaimed, consistent constant flags, renderable
literals); then the distinct group tags in order of first appearance must be identifiers that name
no type, and their union guards are claimed; last, every claimed function name must be a usable
identifier once a leading `r#` is set aside. A claim fails when the name was claimed before,
naming both owners.
-/

namespace NodeKit

/-- The type names the generated module defines or uses unqualified. -/
def reservedTypeNames : List String :=
  ["Node", "TypeMismatch", "String", "Option", "Some", "None", "Vec", "Box", "Result", "Ok",
   "Err", "bool", "f64", "str"]

/-- The key that carries a node's type. -/
def discriminant : String := "type"

/-- Names taken so far, each with its owner, in the order they were taken. -/
abbrev Owners := List (String × String)

/-- Records `name` as taken by `owner`, unless someone took it first. -/
def Owners.claim (taken : Owners) (name owner : String) : Except SchemaError Owners :=
  match taken.find? (·.1 = name) with
  | some (_, first) => .error (.nameCollision name first owner)
  | none => .ok (taken ++ [(name, owner)])

/-- Claims `names` in order, each for `owner`. -/
def Owners.claimAll (taken : Owners) (names : List String) (owner : String) :
    Except SchemaError Owners :=
  names.foldlM (fun taken name => taken.claim name owner) taken

/-- The owner of the reserved names. -/
def generatedModule : String := "the generated module"

/-- The names a type takes among types: its payload's name, then its own if that differs. -/
def TypeDef.typeIdents (d : TypeDef) : List String :=
  d.displayName :: if d.displayName ≠ d.name then [d.name] else []

/-- The functions generated for a type: its builder, guard and assertion. -/
def TypeDef.functionNames (n : Naming.Scheme) (d : TypeDef) : List String :=
  [n.builder d.name, n.guard d.name, n.assertion d.name]

namespace Validate

/-- A type or display type name must be an identifier, not a keyword and not `_`. -/
def checkTypeName (role : NameRole) (name : String) : Except SchemaError Unit :=
  if Rust.isIdentifier name && !Rust.isKeyword name && name != "_" then .ok ()
  else .error (.invalidName role name)

/-- A generated function name must be a usable identifier once `r#` is set aside. -/
def checkFunctionName (name : String) : Except SchemaError Unit :=
  let bare := Rust.unraw name
  if Rust.isIdentifier bare && Rust.isUsable bare then .ok ()
  else .error (.invalidName .generatedFunction name)

/-- The literal `v` of field `f` of type `t`, or the error with `what` before its message. -/
def checkLiteral (t : String) (f : Field) (what : String) (v : Json) :
    Except SchemaError Unit :=
  match Literal.render f v with
  | .ok _ => .ok ()
  | .error e => .error (.invalidLiteral t f.name (what ++ e.message))

/-- The name of field `f` of type `t`: not the discriminant, and an identifier whose generated
name is usable. -/
def checkFieldName (n : Naming.Scheme) (t : String) (f : Field) : Except SchemaError Unit :=
  if f.name = discriminant then throw (.reservedField t f.name)
  else if !Rust.isIdentifier f.name || !Rust.isUsable (n.field f.name) then
    throw (.invalidName .fieldName (t ++ "." ++ f.name))
  else pure ()

/-- Field `f` of type `t` is not both constant and optional. -/
def checkConstantOptional (t : String) (f : Field) : Except SchemaError Unit :=
  if f.constant && f.optional then throw (.constantOptional t f.name) else pure ()

/-- The value of field `f` of type `t` goes with its constant flag: a constant has one, which is
a literal of the field, and no other field has one. -/
def checkValue (t : String) (f : Field) : Except SchemaError Unit :=
  match f.constant, f.value with
  | true, none => throw (.constantWithoutValue t f.name)
  | false, some _ => throw (.valueWithoutConstant t f.name)
  | true, some v => checkLiteral t f "constant value: " v
  | false, none => pure ()

/-- The default of field `f` of type `t`, unless the field is constant, is a literal of it. -/
def checkDefault (t : String) (f : Field) : Except SchemaError Unit :=
  match f.constant, f.defaultValue with
  | false, some d => checkLiteral t f "default: " d
  | _, _ => pure ()

/-- One field of type `t`, given the field identifiers claimed so far. -/
def checkField (n : Naming.Scheme) (t : String) (taken : Owners) (f : Field) :
    Except SchemaError Owners := do
  checkFieldName n t f
  let taken ← taken.claim (n.field f.name) (t ++ "." ++ f.name)
  checkConstantOptional t f
  checkValue t f
  checkDefault t f
  return taken

/-- The display type name of a type, if it has one, is a type name too. -/
def checkDisplayName (d : TypeDef) : Except SchemaError Unit :=
  match d.displayTypeName with
  | some display => checkTypeName .displayTypeName display
  | none => pure ()

/-- One type, given the type and function names claimed so far. -/
def checkType (n : Naming.Scheme) (taken : Owners × Owners) (d : TypeDef) :
    Except SchemaError (Owners × Owners) := do
  let (types, fns) := taken
  checkTypeName .typeName d.name
  checkDisplayName d
  let types ← types.claimAll d.typeIdents d.name
  let fns ← fns.claimAll (d.functionNames n) d.name
  let _ ← d.fields.foldlM (checkField n d.name) []
  return (types, fns)

/-- One group tag, given the names of the types and the function names claimed so far. -/
def checkGroup (n : Naming.Scheme) (typeNames : List String) (fns : Owners) (tag : String) :
    Except SchemaError Owners := do
  if !Rust.isIdentifier tag then throw (.invalidName .groupTag tag)
  if typeNames.contains tag then throw (.groupShadowsType tag)
  fns.claim (n.unionGuard tag) ("group " ++ tag)

end Validate

/-- The distinct group tags of a schema, in order of first appearance. -/
def Schema.groupTags (s : Schema) : List String :=
  (s.definitions.flatMap (·.groupTags)).foldl (fun seen t => if seen.contains t then seen
    else seen ++ [t]) []

/-- Checks a schema for the naming scheme `n`: the first failure, in the order of the checks. -/
def Schema.validate (s : Schema) (n : Naming.Scheme) : Except SchemaError Unit := do
  if s.definitions.isEmpty then throw .empty
  let reserved : Owners := reservedTypeNames.map (·, generatedModule)
  let (_, fns) ← s.definitions.foldlM (Validate.checkType n) (reserved, [])
  let fns ← s.groupTags.foldlM (Validate.checkGroup n s.names) fns
  fns.forM fun (name, _) => Validate.checkFunctionName name

end NodeKit
