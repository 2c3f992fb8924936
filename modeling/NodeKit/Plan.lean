import NodeKit.Schema.Basic

/-!
Builder plans: what building a node of a type takes. The parameters are the fields that are not
constant, each with its default. A parameter that is an array, or of a primitive kind, is checked:
an array must be a sequence and a primitive must have its kind, and an optional or nullable one
skips the check when absent. The node is then put together from the constant fields with their
values, then the required fields, then the optional ones, each under an elision rule that says
when it is left out: an array when empty, an object when empty, a boolean unless true, and
anything else only when absent.
-/

namespace NodeKit

/-- How an argument is checked. -/
inductive Check where
  /-- A value of this primitive kind. -/
  | primitive (kind : ValueKind)
  /-- An array. -/
  | sequence
deriving DecidableEq, Repr

/-- A builder parameter: a field that is not constant, with its default. -/
structure Param where
  field : Field
  defaultValue : Option Json
deriving Repr

/-- The check of one parameter. -/
structure ParamCheck where
  field : Field
  check : Check
  /-- Optional or nullable: an absent or null argument is not checked. -/
  skipIfAbsent : Bool
deriving Repr

/-- When an optional field is left out of a node. -/
inductive Elision where
  /-- Kept only when a non-empty array. -/
  | nonEmptySequence
  /-- Kept unless null or an empty object. -/
  | nonEmptyMapping
  /-- Kept only when `true`. -/
  | trueOnly
  /-- Always kept when present. -/
  | defined
deriving DecidableEq, Repr

/-- How one field of a node is set. -/
inductive FieldInit where
  | constant (field : Field) (value : Json)
  | required (field : Field)
  | optional (field : Field) (elision : Elision)
deriving Repr

/-- The field a setting is for. -/
def FieldInit.field : FieldInit → Field
  | .constant f _ | .required f | .optional f _ => f

/-- How a node is put together: its type, then its fields in order. -/
structure Construction where
  discriminant : String
  inits : List FieldInit
deriving Repr

/-- Everything needed to build a node of one type. -/
structure Plan where
  typeName : String
  displayName : String
  params : List Param
  checks : List ParamCheck
  construction : Construction
deriving Repr

namespace Field

/-- The check of a field's argument, if it has one. -/
def check? (f : Field) : Option Check :=
  if f.array then some .sequence
  else if f.kind.isPrimitive then some (.primitive f.kind)
  else none

/-- The elision rule of an optional field. -/
def elision (f : Field) : Elision :=
  if f.array then .nonEmptySequence
  else match f.kind with
    | .object => .nonEmptyMapping
    | .boolean => .trueOnly
    | _ => .defined

end Field

namespace TypeDef

/-- The parameters of a type. -/
def params (d : TypeDef) : List Param :=
  d.nonConstantFields.map fun f => ⟨f, f.defaultValue⟩

/-- The checks of a type's parameters, in field order. -/
def checks (d : TypeDef) : List ParamCheck :=
  d.nonConstantFields.filterMap fun f => f.check?.map fun c => ⟨f, c, f.mayBeAbsent⟩

/-- The construction of a type's nodes: constants (null when without a value), then required
fields, then optional ones. -/
def construction (d : TypeDef) : Construction :=
  { discriminant := d.name
    inits :=
      (d.fields.filter (·.constant)).map (fun f => .constant f (f.value.getD .null)) ++
      (d.fields.filter (·.isRequired)).map .required ++
      (d.fields.filter fun f => f.optional && !f.constant).map fun f => .optional f f.elision }

/-- The builder plan of a type. -/
def plan (d : TypeDef) : Plan :=
  { typeName := d.name, displayName := d.displayName, params := d.params, checks := d.checks,
    construction := d.construction }

end TypeDef

end NodeKit
