import NodeKit.Binary64

/-!
JSON values as the schema reader and the runtime see them. Numbers keep the class they were read
with: a non-negative integer below `2 ^ 64`, a negative integer down to `-2 ^ 63`, or a double.
Objects keep their entries in order, since the order of keys shows in every answer; a key that is
set again keeps its first position and takes the new value.
-/

namespace NodeKit

/-- A JSON number, by the class the reader gave it. -/
inductive Number where
  /-- A non-negative integer below `2 ^ 64`. -/
  | nat (n : Nat)
  /-- A negative integer, no smaller than `-2 ^ 63`. -/
  | negInt (i : Int)
  /-- Any other number, as a double. -/
  | double (x : Binary64)
deriving DecidableEq, Repr, Inhabited

/-- A JSON value with ordered objects. -/
inductive Json where
  | null
  | bool (b : Bool)
  | num (n : Number)
  | str (s : String)
  | arr (items : List Json)
  | obj (entries : List (String × Json))
deriving Repr, Inhabited

namespace Json

/-- Sets `key` to `v` in an entry list: in place when the key is there, else at the end. -/
def setEntry : List (String × Json) → String → Json → List (String × Json)
  | [], k, v => [(k, v)]
  | (k', v') :: rest, k, v => if k' = k then (k, v) :: rest else (k', v') :: setEntry rest k v

/-- The value under `key` in an entry list. -/
def lookup (entries : List (String × Json)) (key : String) : Option Json :=
  (entries.find? (·.1 = key)).map (·.2)

/-- The value under `key`, when `v` is an object that has it. -/
def get? (v : Json) (key : String) : Option Json :=
  match v with
  | .obj entries => lookup entries key
  | _ => none

/-- The name of the value's JSON type: `null`, `boolean`, `number`, `string`, `array`, `object`. -/
def typeName : Json → String
  | .null => "null"
  | .bool _ => "boolean"
  | .num _ => "number"
  | .str _ => "string"
  | .arr _ => "array"
  | .obj _ => "object"

/-- The value is `null`. -/
def isNull : Json → Bool
  | .null => true
  | _ => false

@[simp] theorem setEntry_nil (k : String) (v : Json) : setEntry [] k v = [(k, v)] := rfl

end Json

end NodeKit
