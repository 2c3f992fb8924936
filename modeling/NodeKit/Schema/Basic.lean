import NodeKit.Json.Value

/-!
Schemas of tagged-variant node types. A schema is an ordered list of type definitions; each has a
name, an optional display name for its payload, fields in declaration order, and the group tags it
belongs to. A field has a kind of value (of each element, for an array field) and flags: optional,
nullable, constant with a fixed value, and a default used when a caller leaves it out. Order is
significant everywhere, so every collection here is a list.
-/

namespace NodeKit

/-- The kind of a field's value. -/
inductive ValueKind where
  | string
  | number
  | boolean
  /-- A string-keyed mapping. -/
  | object
  /-- Another node, or a union of nodes. -/
  | node
  /-- Anything, carried through untouched. -/
  | any
deriving DecidableEq, Repr, Inhabited

namespace ValueKind

/-- The kind's name in a schema. -/
def name : ValueKind → String
  | .string => "string"
  | .number => "number"
  | .boolean => "boolean"
  | .object => "object"
  | .node => "node"
  | .any => "any"

/-- Kinds whose values can be checked without looking inside them. -/
def isPrimitive : ValueKind → Bool
  | .string | .number | .boolean => true
  | _ => false

end ValueKind

/-- A declared field of a node type. -/
structure Field where
  name : String
  kind : ValueKind := .any
  array : Bool := false
  optional : Bool := false
  nullable : Bool := false
  constant : Bool := false
  /-- The fixed value of a constant field. -/
  value : Option Json := none
  /-- The value used when the caller leaves the field out. -/
  defaultValue : Option Json := none
deriving Inhabited, Repr

namespace Field

/-- Neither optional nor constant: the caller always supplies it. -/
def isRequired (f : Field) : Bool := !f.optional && !f.constant

/-- The caller may leave it out or pass null without a check. -/
def mayBeAbsent (f : Field) : Bool := f.optional || f.nullable

end Field

/-- One tagged-variant node type. -/
structure TypeDef where
  name : String
  displayTypeName : Option String := none
  fields : List Field := []
  groupTags : List String := []
deriving Inhabited, Repr

namespace TypeDef

/-- The name of the type's payload: its display name if set, else its name. -/
def displayName (d : TypeDef) : String := d.displayTypeName.getD d.name

/-- The fields a caller supplies: all but the constant ones, in declaration order. -/
def nonConstantFields (d : TypeDef) : List Field := d.fields.filter (!·.constant)

end TypeDef

/-- An ordered collection of node types. -/
structure Schema where
  definitions : List TypeDef
deriving Inhabited, Repr

namespace Schema

/-- The definition of a type, by name. -/
def get? (s : Schema) (name : String) : Option TypeDef := s.definitions.find? (·.name = name)

/-- The number of types. -/
def size (s : Schema) : Nat := s.definitions.length

/-- The names of the types, in order. -/
def names (s : Schema) : List String := s.definitions.map (·.name)

end Schema

end NodeKit
