import NodeKit.Schema.Basic
import NodeKit.Json.Path
import NodeKit.Rust.Literal
import NodeKit.Json.Write

/-!
Decoding a JSON value into a schema. The document is an object from type names to definitions.
A definition is an object with the keys `displayTypeName` (or `flowTypeName`), `fields` and
`unionType` (or `groupTags`), all optional; a field is an object with `type`, `array`,
`optional`, `nullable` (or `maybe`), `constant`, `value` and `default`, all optional. An array
may stand for either object, its items giving the keys in that order. Any other key, or both keys
of one alias pair, is an error. A kind is one of its names, or an object with one key naming it
whose value is null. A null `value` or `default` means none.

Entries are decoded in order, and the first failure is reported with the path of the value that
failed: its own key for a wrong value, the key itself for an unknown key, and the enclosing
object for a repeated field or an array that is too long.
-/

namespace NodeKit

/-- Why a value could not be decoded. -/
inductive DecodeReason where
  /-- The value is of the wrong JSON type. -/
  | invalidType (found : String) (expected : String)
  /-- The value has the right type but cannot be used. -/
  | invalidValue (found : String) (expected : String)
  /-- An array has more items than the record has fields. -/
  | invalidLength (length : Nat) (expected : String)
  | unknownField (name : String) (expected : List String)
  | unknownVariant (name : String) (expected : List String)
  | duplicateField (name : String)
deriving Repr

/-- A decoding failure at a path. -/
structure DecodeError where
  path : Json.Path
  reason : DecodeReason
deriving Repr

/-- Names in backquotes, as a list of alternatives: "`a`", "`a` or `b`", "one of `a`, `b`, `c`". -/
def oneOf (names : List String) : String :=
  let tick (n : String) := "`" ++ n ++ "`"
  match names with
  | [] => ""
  | [a] => tick a
  | [a, b] => tick a ++ " or " ++ tick b
  | _ => "one of " ++ ", ".intercalate (names.map tick)

/-- The wording of a decoding failure. -/
def DecodeReason.message : DecodeReason → String
  | .invalidType found expected => "invalid type: " ++ found ++ ", expected " ++ expected
  | .invalidValue found expected => "invalid value: " ++ found ++ ", expected " ++ expected
  | .invalidLength n expected => "invalid length " ++ toString n ++ ", expected " ++ expected
  | .unknownField name [] => "unknown field `" ++ name ++ "`, there are no fields"
  | .unknownField name expected => "unknown field `" ++ name ++ "`, expected " ++ oneOf expected
  | .unknownVariant name [] => "unknown variant `" ++ name ++ "`, there are no variants"
  | .unknownVariant name expected =>
    "unknown variant `" ++ name ++ "`, expected " ++ oneOf expected
  | .duplicateField name => "duplicate field `" ++ name ++ "`"

/-- What a value is, as a type error describes it; a double is written as JSON writes it. -/
def Json.describe : Json → String
  | .null => "null"
  | .bool b => "boolean `" ++ (if b then "true" else "false") ++ "`"
  | .num (.nat n) => "integer `" ++ toString n ++ "`"
  | .num (.negInt i) => "integer `" ++ toString i ++ "`"
  | .num (.double x) => "floating point `" ++ Json.numberNotation.render x ++ "`"
  | .str s => "string " ++ Rust.quote s
  | .arr _ => "sequence"
  | .obj _ => "map"

namespace Decode

/-- The result of decoding. -/
abbrev Result (α : Type) := Except DecodeError α

/-- Fails at `path` for `reason`. -/
def fail {α : Type} (path : Json.Path) (reason : DecodeReason) : Result α := .error ⟨path, reason⟩

/-- A value of the wrong type. -/
def wrongType {α : Type} (path : Json.Path) (v : Json) (expected : String) : Result α :=
  fail path (.invalidType v.describe expected)

/-- A boolean. -/
def bool (path : Json.Path) : Json → Result Bool
  | .bool b => .ok b
  | v => wrongType path v "a boolean"

/-- A string. -/
def string (path : Json.Path) : Json → Result String
  | .str s => .ok s
  | v => wrongType path v "a string"

/-- A string or null. -/
def optionalString (path : Json.Path) : Json → Result (Option String)
  | .null => .ok none
  | v => (string path v).map some

/-- Any value but null. -/
def optionalValue : Json → Option Json
  | .null => none
  | v => some v

/-- The strings of an array, each at its index. -/
def strings (path : Json.Path) : Json → Result (List String)
  | .arr items => go 0 items
  | v => wrongType path v "a sequence"
where
  /-- The items from index `i` on. -/
  go (i : Nat) : List Json → Result (List String)
    | [] => .ok []
    | v :: rest => do
      let s ← string (path ++ [.index i]) v
      let ss ← go (i + 1) rest
      return s :: ss

/-- The names of the kinds, aliases after or before their kind as the decoder lists them. -/
def kindNames : List String :=
  ["string", "number", "boolean", "Object", "object", "node", "node-reference", "any", "opaque"]

/-- The kind a name stands for. -/
def kindOfName? : String → Option ValueKind
  | "string" => some .string
  | "number" => some .number
  | "boolean" => some .boolean
  | "object" | "Object" => some .object
  | "node" | "node-reference" => some .node
  | "any" | "opaque" => some .any
  | _ => none

/-- A kind: its name, or an object whose one key names it and whose value is null. -/
def kind (path : Json.Path) : Json → Result ValueKind
  | .str s => match kindOfName? s with
    | some k => .ok k
    | none => fail path (.unknownVariant s kindNames)
  | .obj [(s, payload)] => match kindOfName? s with
    | none => fail path (.unknownVariant s kindNames)
    | some k => match payload with
      | .null => .ok k
      | v => wrongType (path ++ [.key s]) v "unit"
  | .obj _ => fail path (.invalidValue "map" "map with a single key")
  | v => wrongType path v "string or map"

/-- The keys a field object may have. -/
def fieldKeys : List String :=
  ["type", "array", "optional", "maybe", "nullable", "constant", "value", "default"]

/-- A field object's entries, applied in order to `f`; `nullableSeen` records whether
`nullable` or `maybe` came already. -/
def fieldEntries (path : Json.Path) : Field → Bool → List (String × Json) → Result Field
  | f, _, [] => .ok f
  | f, seen, (k, v) :: rest =>
    let here := path ++ [.key k]
    match k with
    | "type" => do fieldEntries path { f with kind := ← kind here v } seen rest
    | "array" => do fieldEntries path { f with array := ← bool here v } seen rest
    | "optional" => do fieldEntries path { f with optional := ← bool here v } seen rest
    | "nullable" | "maybe" =>
      if seen then fail path (.duplicateField "nullable")
      else do fieldEntries path { f with nullable := ← bool here v } true rest
    | "constant" => do fieldEntries path { f with constant := ← bool here v } seen rest
    | "value" => fieldEntries path { f with value := optionalValue v } seen rest
    | "default" => fieldEntries path { f with defaultValue := optionalValue v } seen rest
    | _ => fail here (.unknownField k fieldKeys)

/-- A field's array form: kind, array, optional, nullable, constant, value, default. -/
def fieldItems (path : Json.Path) (name : String) (items : List Json) : Result Field := do
  let at_ (i : Nat) := path ++ [.index i]
  let item (i : Nat) := items[i]?
  let kind ← (item 0).elim (pure .any) (kind (at_ 0))
  let array ← (item 1).elim (pure false) (bool (at_ 1))
  let optional ← (item 2).elim (pure false) (bool (at_ 2))
  let nullable ← (item 3).elim (pure false) (bool (at_ 3))
  let constant ← (item 4).elim (pure false) (bool (at_ 4))
  let value := (item 5).bind optionalValue
  let defaultValue := (item 6).bind optionalValue
  if 7 < items.length then fail path (.invalidLength items.length "fewer elements in array")
  else .ok { name, kind, array, optional, nullable, constant, value, defaultValue }

/-- A field named `name`, from its object or array. -/
def field (path : Json.Path) (name : String) : Json → Result Field
  | .obj entries => fieldEntries path { name } false entries
  | .arr items => fieldItems path name items
  | v => wrongType path v "struct FieldMeta"

/-- The fields of a type, from an object of field names to fields. -/
def fields (path : Json.Path) : Json → Result (List Field)
  | .obj entries => entries.mapM fun (k, v) => field (path ++ [.key k]) k v
  | v => wrongType path v "a map"

/-- The keys a definition object may have. -/
def typeKeys : List String :=
  ["displayTypeName", "flowTypeName", "fields", "groupTags", "unionType"]

/-- A definition object's entries, applied in order to `d`; the flags record which keys came
already. -/
def typeEntries (path : Json.Path) :
    TypeDef → Bool → Bool → Bool → List (String × Json) → Result TypeDef
  | d, _, _, _, [] => .ok d
  | d, display, fs, tags, (k, v) :: rest =>
    let here := path ++ [.key k]
    match k with
    | "displayTypeName" | "flowTypeName" =>
      if display then fail path (.duplicateField "displayTypeName")
      else do
        typeEntries path { d with displayTypeName := ← optionalString here v } true fs tags rest
    | "fields" =>
      if fs then fail path (.duplicateField "fields")
      else do typeEntries path { d with fields := ← fields here v } display true tags rest
    | "unionType" | "groupTags" =>
      if tags then fail path (.duplicateField "unionType")
      else do typeEntries path { d with groupTags := ← strings here v } display fs true rest
    | _ => fail here (.unknownField k typeKeys)

/-- A definition's array form: display type name, fields, group tags. -/
def typeItems (path : Json.Path) (name : String) (items : List Json) : Result TypeDef := do
  let at_ (i : Nat) := path ++ [.index i]
  let displayTypeName ← (items[0]?).elim (pure none) (optionalString (at_ 0))
  let fs ← (items[1]?).elim (pure []) (fields (at_ 1))
  let groupTags ← (items[2]?).elim (pure []) (strings (at_ 2))
  if 3 < items.length then fail path (.invalidLength items.length "fewer elements in array")
  else .ok { name, displayTypeName, fields := fs, groupTags }

/-- The definition of the type `name`, from its object or array. -/
def typeDef (path : Json.Path) (name : String) : Json → Result TypeDef
  | .obj entries => typeEntries path { name } false false false entries
  | .arr items => typeItems path name items
  | v => wrongType path v "struct TypeDef"

end Decode

/-- The schema a document describes: an object from type names to definitions, in order. -/
def Schema.ofJson : Json → Decode.Result Schema
  | .obj entries => do
    let defs ← entries.mapM fun (k, v) => Decode.typeDef [.key k] k v
    return ⟨defs⟩
  | v => Decode.wrongType [] v "a map"

end NodeKit
