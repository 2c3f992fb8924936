import NodeKit.Schema.Basic
import NodeKit.Json.Write
import NodeKit.Rust.Literal

/-!
Literal values of fields as Rust expressions of the field's value type. A string becomes
`String::from("…")`, a number its double in debug form, a boolean `true` or `false`, an object a
`serde_json` map built from its entries in order, and a value of kind `any` a `json!` invocation
of the value's tokens. An array field takes a JSON array and renders each item, `Vec::new()` when
there is none. A node field has no literals, and a value of the wrong JSON type is refused with
the compact JSON text of what was given.
-/

namespace NodeKit

/-- Why a value is no literal of a field. -/
inductive LiteralError where
  /-- An array field was given something else. -/
  | notArray (got : Json)
  /-- A field of `kind` was given a value of another JSON type. -/
  | kindMismatch (kind : ValueKind) (got : Json)
  /-- Node fields have no literals. -/
  | nodeReference
deriving Repr

/-- The wording of a literal error. -/
def LiteralError.message : LiteralError → String
  | .notArray got => "expected an array literal, got " ++ Json.text got
  | .kindMismatch kind got => "expected a " ++ kind.name ++ " literal, got " ++ Json.text got
  | .nodeReference => "node references cannot have literal values"

/-- A number as a double: integers are rounded to the nearest double. -/
def Number.toBinary64 : Number → Binary64
  | .nat n => Binary64.ofNat n
  | .negInt i => (Binary64.ofNat i.natAbs).neg
  | .double x => x

namespace Literal

mutual

/-- The tokens of a value inside `json!(…)`: JSON syntax with strings in Rust quoting and
`, ` between parts. -/
def tokens : Json → String
  | .null => "null"
  | .bool true => "true"
  | .bool false => "false"
  | .num n => Json.numberText n
  | .str s => Rust.quote s
  | .arr items => "[" ++ itemTokens items ++ "]"
  | .obj entries => "\x7b" ++ entryTokens entries ++ "\x7d"

/-- Array items as tokens. -/
def itemTokens : List Json → String
  | [] => ""
  | [v] => tokens v
  | v :: rest => tokens v ++ ", " ++ itemTokens rest

/-- Object entries as tokens. -/
def entryTokens : List (String × Json) → String
  | [] => ""
  | [(k, v)] => Rust.quote k ++ ": " ++ tokens v
  | (k, v) :: rest => Rust.quote k ++ ": " ++ tokens v ++ ", " ++ entryTokens rest

end

/-- One entry of a map literal. -/
def mapEntry (k : String) (v : Json) : String :=
  "(String::from(" ++ Rust.quote k ++ "), ::serde_json::json!(" ++ tokens v ++ "))"

/-- A single value of a field of `kind`. -/
def scalar (kind : ValueKind) (v : Json) : Except LiteralError String :=
  match kind, v with
  | .string, .str s => .ok ("String::from(" ++ Rust.quote s ++ ")")
  | .number, .num n => .ok (Rust.floatLiteral n.toBinary64)
  | .boolean, .bool b => .ok (if b then "true" else "false")
  | .object, .obj [] => .ok "::serde_json::Map::new()"
  | .object, .obj entries =>
    .ok ("::serde_json::Map::from_iter([" ++
      ", ".intercalate (entries.map fun (k, v) => mapEntry k v) ++ "])")
  | .node, _ => .error .nodeReference
  | .any, v => .ok ("::serde_json::json!(" ++ tokens v ++ ")")
  | kind, other => .error (.kindMismatch kind other)

/-- A value of the field `f` as a Rust expression of its value type. -/
def render (f : Field) (v : Json) : Except LiteralError String :=
  if !f.array then scalar f.kind v
  else match v with
    | .arr [] => .ok "Vec::new()"
    | .arr items => do
      let parts ← items.mapM (scalar f.kind)
      return "vec![" ++ ", ".intercalate parts ++ "]"
    | other => .error (.notArray other)

end Literal

end NodeKit
