import NodeKit.Validate
import NodeKit.Plan
import NodeKit.Group

/-!
Building and testing nodes as JSON values, by the same plans the generated builders follow. A
builder is made from a schema that validates with the plain naming scheme. Building a node of a
type refuses an unknown type, then the first argument that is no parameter, then the first
checked parameter whose argument (or default, when the argument is absent) fails its check; it
then writes `type`, the constants, the required fields (null when absent) and the optional fields
their elision keeps. A value is of a type when its `type` entry is that type's name, and in a group
when it is of a member type.
-/

namespace NodeKit

/-- Why building or asserting a node failed. -/
inductive BuildError where
  | unknownType (name : String)
  | unknownArgument (typeName argument : String)
  | argumentMismatch (typeName field expected actual : String)
  | typeMismatch (expected actual : String)
deriving Repr

namespace BuildError

/-- The name of the error's variant. -/
def variant : BuildError → String
  | .unknownType .. => "UnknownType"
  | .unknownArgument .. => "UnknownArgument"
  | .argumentMismatch .. => "ArgumentMismatch"
  | .typeMismatch .. => "TypeMismatch"

/-- The wording of an error. -/
def message : BuildError → String
  | .unknownType name => "unknown node type: " ++ name
  | .unknownArgument t a => t ++ " has no field named " ++ a
  | .argumentMismatch t f e a => "invalid argument " ++ t ++ "." ++ f ++ ": expected " ++ e ++
    ", got " ++ a
  | .typeMismatch e a => "type mismatch: expected " ++ e ++ ", got " ++ a

end BuildError

/-- The plans and groups of a validated schema. -/
structure Builder where
  plans : List Plan
  groups : GroupIndex

namespace Builder

/-- The builder of a schema that validates with the plain naming scheme. -/
def new? (s : Schema) : Except SchemaError Builder := do
  s.validate {}
  return { plans := s.definitions.map (·.plan), groups := GroupIndex.ofSchema s }

/-- The plan of a type. -/
def plan? (b : Builder) (name : String) : Option Plan := b.plans.find? (·.typeName = name)

/-- The name of a possibly absent argument's JSON type, `undefined` when absent. -/
def kindName : Option Json → String
  | none => "undefined"
  | some v => v.typeName

/-- A value has the JSON type of a kind; node and any accept everything. -/
def hasKind (v : Json) : ValueKind → Bool
  | .string => v.typeName = "string"
  | .number => v.typeName = "number"
  | .boolean => v.typeName = "boolean"
  | .object => v.typeName = "object"
  | .node | .any => true

/-- Whether an optional field's value is kept under its elision. -/
def keeps (v : Json) : Elision → Bool
  | .nonEmptySequence => match v with
    | .arr (_ :: _) => true
    | _ => false
  | .nonEmptyMapping => match v with
    | .obj [] | .null => false
    | _ => true
  | .trueOnly => match v with
    | .bool true => true
    | _ => false
  | .defined => true

/-- The argument a parameter gets: the given one if the key is there, else its default. -/
def resolve (plan : Plan) (args : List (String × Json)) (name : String) : Option Json :=
  match Json.lookup args name with
  | some v => some v
  | none => (plan.params.find? (·.field.name = name)).bind (·.defaultValue)

/-- An argument counts as absent when it is missing or null. -/
def isAbsent : Option Json → Bool
  | none | some .null => true
  | _ => false

/-- Whether an argument passes a check: an array for a sequence, a value of the kind for a
primitive. -/
def passes : Check → Option Json → Bool
  | .sequence, some (.arr _) => true
  | .sequence, _ => false
  | .primitive k, value => (value.map (hasKind · k)).getD false

/-- What a check expects, as its error names it. -/
def expected : Check → String
  | .sequence => "array"
  | .primitive k => k.name

/-- Runs one check; the error names what was expected and what came. -/
def runCheck (plan : Plan) (args : List (String × Json)) (c : ParamCheck) :
    Except BuildError Unit :=
  let value := resolve plan args c.field.name
  if c.skipIfAbsent && isAbsent value then .ok ()
  else if passes c.check value then .ok ()
  else .error (.argumentMismatch plan.typeName c.field.name (expected c.check) (kindName value))

/-- The entry one field setting adds to the node, if any. -/
def initEntry (plan : Plan) (args : List (String × Json)) : FieldInit → List (String × Json)
  | .constant f v => [(f.name, v)]
  | .required f => [(f.name, (resolve plan args f.name).getD .null)]
  | .optional f e => match resolve plan args f.name with
    | some v => if keeps v e then [(f.name, v)] else []
    | none => []

/-- Builds a node of type `name` from the arguments `args`. -/
def build (b : Builder) (name : String) (args : List (String × Json)) :
    Except BuildError Json := do
  let some plan := b.plan? name | throw (.unknownType name)
  if let some (k, _) := args.find? fun (k, _) => !plan.params.any (·.field.name = k) then
    throw (.unknownArgument name k)
  plan.checks.forM (runCheck plan args)
  let entries := plan.construction.inits.flatMap (initEntry plan args)
  return .obj (entries.foldl (fun acc (k, v) => Json.setEntry acc k v)
    [(discriminant, .str plan.construction.discriminant)])

/-- The string in a value's `type` entry, if it has one. -/
def discriminantOf (v : Json) : Option String :=
  match v.get? discriminant with
  | some (.str s) => some s
  | _ => none

/-- The value is a node of the known type `name`. -/
def isType (b : Builder) (name : String) (v : Json) : Bool :=
  (b.plan? name).isSome && discriminantOf v = some name

/-- The value is a node of a member type of group `tag`. -/
def isGroup (b : Builder) (tag : String) (v : Json) : Bool :=
  (b.groups.members tag).any fun m => b.isType m v

/-- Succeeds when the value is a node of the known type `name`. -/
def assertType (b : Builder) (name : String) (v : Json) : Except BuildError Unit :=
  if (b.plan? name).isNone then .error (.unknownType name)
  else if b.isType name v then .ok ()
  else .error (.typeMismatch name ((discriminantOf v).getD "none"))

end Builder

end NodeKit
