import NodeKit.Schema.Basic
import NodeKit.Schema.Error
import NodeKit.Naming.Scheme
import NodeKit.Literal
import NodeKit.Plan
import NodeKit.Group

/-!
The Rust module generated for a schema. In order it holds: a fixed prelude with the
`TypeMismatch` error; the `Node` enum with one variant per type and its `type_name`; a payload
struct per type; a builder per type; a guard per type; a union guard per group; the
`UNION_TYPES_MAP` table of groups; and an assertion per type. Indentation is four spaces a level.
A builder takes the non-constant fields as parameters, fills in defaults, and sets constants,
required fields and optional fields (filtered by their elision) in that order. The only failure
is a default or constant value that is no literal of its field.
-/

namespace NodeKit.Rust.Module

/-- A line at `depth` levels of indentation. -/
def line (depth : Nat) (text : String) : String :=
  String.join (List.replicate depth "    ") ++ text ++ "\n"

/-- An empty line. -/
def blank : String := "\n"

/-- The fixed beginning of every module. -/
def prelude : String := String.join [
  line 0 "// THIS FILE IS AUTOGENERATED",
  line 0 "// see `nodegen rust --help`",
  blank,
  line 0 "/// Returned by the `assert_*` functions when a node is not of the expected type.",
  line 0 "#[derive(Debug, Clone, Copy, PartialEq, Eq)]",
  line 0 "pub struct TypeMismatch \x7b",
  line 1 "pub expected: &'static str,",
  line 1 "pub actual: &'static str,",
  line 0 "\x7d",
  blank,
  line 0 "impl ::std::fmt::Display for TypeMismatch \x7b",
  line 1 "fn fmt(&self, f: &mut ::std::fmt::Formatter<'_>) -> ::std::fmt::Result \x7b",
  line 2 "write!(f, \"type mismatch: expected \x7b\x7d, got \x7b\x7d\", self.expected, self.actual)",
  line 1 "\x7d",
  line 0 "\x7d",
  blank,
  line 0 "impl ::std::error::Error for TypeMismatch \x7b\x7d",
  blank]

/-- The `Node` enum and its `type_name` method. -/
def nodeEnum (s : Schema) : String := String.join [
  line 0 "#[derive(Debug, Clone, PartialEq, ::serde::Serialize, ::serde::Deserialize)]",
  line 0 "#[serde(tag = \"type\")]",
  line 0 "pub enum Node \x7b",
  String.join (s.definitions.map fun d => line 1 (d.name ++ "(" ++ d.displayName ++ "),")),
  line 0 "\x7d",
  blank,
  line 0 "impl Node \x7b",
  line 1 "/// The discriminant carried in the `type` field.",
  line 1 "pub fn type_name(&self) -> &'static str \x7b",
  line 2 "match *self \x7b",
  String.join (s.definitions.map fun d =>
    line 3 ("Node::" ++ d.name ++ "(_) => " ++ Rust.quote d.name ++ ",")),
  line 2 "\x7d",
  line 1 "\x7d",
  line 0 "\x7d",
  blank]

/-- The Rust type of one value of a kind. -/
def valueType : ValueKind → String
  | .string => "String"
  | .number => "f64"
  | .boolean => "bool"
  | .object => "::serde_json::Map<String, ::serde_json::Value>"
  | .node => "Node"
  | .any => "::serde_json::Value"

/-- The type of a payload struct's field. -/
def fieldType (f : Field) : String :=
  let base := valueType f.kind
  let ty := if f.array then "Vec<" ++ base ++ ">"
    else if f.kind = .node then "Box<" ++ base ++ ">"
    else base
  if !f.constant && f.mayBeAbsent then "Option<" ++ ty ++ ">" else ty

/-- The type of a builder parameter. -/
def paramType (p : Param) : String :=
  let base := valueType p.field.kind
  let ty := if p.field.array then "Vec<" ++ base ++ ">" else base
  if p.field.mayBeAbsent || p.defaultValue.isSome then "Option<" ++ ty ++ ">" else ty

/-- How an argument becomes the field's value: nodes are boxed, all else passes as it is. -/
def passThrough (ident : String) (f : Field) : String :=
  if f.kind ≠ .node || f.array then ident
  else if f.mayBeAbsent then ident ++ ".map(Box::new)"
  else "Box::new(" ++ ident ++ ")"

/-- The lines of a payload struct's field: its serde attribute, if it needs one, and its
declaration. The attribute renames a field whose identifier is not its name, and lets an optional
field be left out when it is `None`. -/
def fieldLines (n : Naming.Scheme) (f : Field) : String :=
  let ident := n.field f.name
  let args := (if Rust.unraw ident ≠ f.name then ["rename = " ++ Rust.quote f.name] else []) ++
    (if f.optional && !f.constant then
      ["default, skip_serializing_if = \"Option::is_none\""] else [])
  (if args.isEmpty then "" else line 1 ("#[serde(" ++ ", ".intercalate args ++ ")]")) ++
    line 1 ("pub " ++ ident ++ ": " ++ fieldType f ++ ",")

/-- The payload struct of a type. -/
def payload (n : Naming.Scheme) (d : TypeDef) : String :=
  let head := line 0 ("/// Payload of a `" ++ d.name ++ "` node.") ++
    line 0 "#[derive(Debug, Clone, PartialEq, ::serde::Serialize, ::serde::Deserialize)]"
  if d.fields.isEmpty then head ++ line 0 ("pub struct " ++ d.displayName ++ " \x7b\x7d") ++ blank
  else
    head ++ line 0 ("pub struct " ++ d.displayName ++ " \x7b") ++
      String.join (d.fields.map (fieldLines n)) ++ line 0 "\x7d" ++ blank

/-- A literal of field `f` of type `t`, or the error naming them. -/
def literal (t : String) (f : Field) (v : Json) : Except SchemaError String :=
  match Literal.render f v with
  | .ok text => .ok text
  | .error e => .error (.invalidLiteral t f.name e.message)

/-- Builders with more parameters than this are marked for the linter. -/
def maxQuietParams : Nat := 7

/-- The line that fills in a parameter's default, if it has one. -/
def defaultLine (n : Naming.Scheme) (t : String) (p : Param) : Except SchemaError String :=
  match p.defaultValue with
  | none => .ok ""
  | some d => do
    let ident := n.field p.field.name
    let lit ← literal t p.field d
    if p.field.mayBeAbsent then
      return line 1 ("let " ++ ident ++ " = " ++ ident ++ ".or_else(|| Some(" ++ lit ++ "));")
    else return line 1 ("let " ++ ident ++ " = " ++ ident ++ ".unwrap_or_else(|| " ++ lit ++ ");")

/-- The expression that sets one field in a builder. -/
def initExpr (n : Naming.Scheme) (t : String) (init : FieldInit) : Except SchemaError String :=
  let ident := n.field init.field.name
  match init with
  | .constant f v => literal t f v
  | .required f => .ok (passThrough ident f)
  | .optional f elision => .ok <| match elision with
    | .nonEmptySequence | .nonEmptyMapping => ident ++ ".filter(|v| !v.is_empty())"
    | .trueOnly => ident ++ ".filter(|v| *v)"
    | .defined => passThrough ident f

/-- The line that sets one field in a builder. -/
def initLine (n : Naming.Scheme) (t : String) (init : FieldInit) : Except SchemaError String := do
  let ident := n.field init.field.name
  let expr ← initExpr n t init
  return if expr = ident then line 2 (ident ++ ",") else line 2 (ident ++ ": " ++ expr ++ ",")

/-- The line that declares a builder parameter. -/
def paramLine (n : Naming.Scheme) (p : Param) : String :=
  line 1 (n.field p.field.name ++ ": " ++ paramType p ++ ",")

/-- The line that opens the node a builder returns: its variant, and the payload struct. -/
def constructorLine (plan : Plan) : String :=
  line 1 ("Node::" ++ plan.construction.discriminant ++ "(" ++ plan.displayName ++ " \x7b")

/-- The builder of a type. -/
def builder (n : Naming.Scheme) (plan : Plan) : Except SchemaError String := do
  let name := n.builder plan.typeName
  let head := line 0 ("/// Builds a `" ++ plan.typeName ++ "` node.") ++
    (if maxQuietParams < plan.params.length then line 0 "#[allow(clippy::too_many_arguments)]"
      else "")
  let signature := if plan.params.isEmpty then line 0 ("pub fn " ++ name ++ "() -> Node \x7b")
    else line 0 ("pub fn " ++ name ++ "(") ++
      String.join (plan.params.map (paramLine n)) ++
      line 0 ") -> Node \x7b"
  let defaults ← plan.params.mapM (defaultLine n plan.typeName)
  let inits ← plan.construction.inits.mapM (initLine n plan.typeName)
  return head ++ signature ++ String.join defaults ++
    constructorLine plan ++ String.join inits ++ line 1 "\x7d)" ++ line 0 "\x7d" ++ blank

/-- The guard of a type. -/
def guard (n : Naming.Scheme) (d : TypeDef) : String :=
  line 0 ("pub fn " ++ n.guard d.name ++ "(node: &Node) -> bool \x7b") ++
    line 1 ("matches!(node, Node::" ++ d.name ++ "(_))") ++ line 0 "\x7d" ++ blank

/-- The union guard of a group. -/
def unionGuard (n : Naming.Scheme) (tag : String) (members : List String) : String :=
  let name := n.unionGuard tag
  let body := if members.isEmpty then
      line 0 ("pub fn " ++ name ++ "(_node: &Node) -> bool \x7b") ++ line 1 "false"
    else
      line 0 ("/// Members: " ++ ", ".intercalate (members.map fun m => "`" ++ m ++ "`") ++ ".") ++
        line 0 ("pub fn " ++ name ++ "(node: &Node) -> bool \x7b") ++
        line 1 (" || ".intercalate (members.map fun m => n.guard m ++ "(node)"))
  body ++ line 0 "\x7d" ++ blank

/-- The table of groups and their members. -/
def unionMap (g : GroupIndex) : String :=
  line 0 "/// Group tag → member type names, in schema order." ++
    line 0 "pub static UNION_TYPES_MAP: &[(&str, &[&str])] = &[" ++
    String.join (g.groups.map fun (tag, members) =>
      line 1 ("(" ++ Rust.quote tag ++ ", &[" ++ ", ".intercalate (members.map Rust.quote) ++ "]),")) ++
    line 0 "];" ++ blank

/-- The assertion of a type. -/
def assertion (n : Naming.Scheme) (d : TypeDef) : String := String.join [
  line 0 ("/// Fails unless `node` is a `" ++ d.name ++ "`."),
  line 0 "#[allow(unreachable_patterns)]",
  line 0 ("pub fn " ++ n.assertion d.name ++ "(node: &Node) -> Result<&" ++ d.displayName ++
    ", TypeMismatch> \x7b"),
  line 1 "match node \x7b",
  line 2 ("Node::" ++ d.name ++ "(inner) => Ok(inner),"),
  line 2 "other => Err(TypeMismatch \x7b",
  line 3 ("expected: " ++ Rust.quote d.name ++ ","),
  line 3 "actual: other.type_name(),",
  line 2 "\x7d),",
  line 1 "\x7d",
  line 0 "\x7d",
  blank]

/-- The whole module for a schema and its groups. -/
def render (n : Naming.Scheme) (s : Schema) (g : GroupIndex) : Except SchemaError String := do
  let builders ← s.definitions.mapM fun d => builder n d.plan
  return prelude ++ nodeEnum s ++ String.join (s.definitions.map (payload n)) ++
    String.join builders ++ String.join (s.definitions.map (guard n)) ++
    String.join (g.groups.map fun (tag, members) => unionGuard n tag members) ++ unionMap g ++
    String.join (s.definitions.map (assertion n))

end NodeKit.Rust.Module
