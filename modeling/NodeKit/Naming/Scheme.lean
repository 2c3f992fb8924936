import NodeKit.Naming.Snake
import NodeKit.Rust.Ident

/-!
The names the generated module gives to what a schema declares. A type `T` gets a builder named by
the builder prefix and the snake case of `T`, a guard `is_t` and an assertion `assert_t`; a group
`g` gets a union guard `is_g`; a field gets the snake case of its name. Builder and field names
that are keywords are written raw.
-/

namespace NodeKit.Naming

/-- How generated names are formed; only the builder prefix varies. -/
structure Scheme where
  builderPrefix : String := ""
deriving Inhabited, Repr

namespace Scheme

/-- The builder function of a type. -/
def builder (n : Scheme) (typeName : String) : String :=
  Rust.escapeKeyword (n.builderPrefix ++ snakeCase typeName)

/-- The guard that tests for a type. -/
def guard (_n : Scheme) (typeName : String) : String := "is_" ++ snakeCase typeName

/-- The assertion that unwraps a type. -/
def assertion (_n : Scheme) (typeName : String) : String := "assert_" ++ snakeCase typeName

/-- The guard that tests for membership in a group. -/
def unionGuard (_n : Scheme) (group : String) : String := "is_" ++ snakeCase group

/-- The struct field and builder parameter of a field. -/
def field (_n : Scheme) (fieldName : String) : String := Rust.escapeKeyword (snakeCase fieldName)

example : ({ builderPrefix := "build_" } : Scheme).builder "NumberLiteral" =
    "build_number_literal" := by decide

end Scheme

end NodeKit.Naming
