import NodeKit.Rust.Evaluate
import NodeKit.Rust.Module
import NodeKit.Validate

/-!
What calling a generated builder gives, read off the text the module writes for it. Each
parameter line declares a variable and its type, and the variable takes the caller's argument at
that type: an `Option<…>` parameter takes `Some` of the argument or `None`, any other parameter
needs the argument. Each default line `let x = e;` binds `x` again to the value of `e`. Each line of
the struct expression gives one field its value: a variable, a variable boxed, one of the `Option`
methods the generator writes called on a variable, or a literal, which the literal reader reads.
The node is then serialized as serde writes an internally tagged enum: the `type` entry with the
variant's name, then each field of the payload in declaration order, under its name or the name
its attribute gives, and left out when it is `None` and its attribute says to skip it.

The reader covers the forms the generator writes and nothing else. Any other text, a literal
without a value, an `Option` method called on a plain value or a struct field whose value is an
`Option` exactly when its declared type is not, gives no node: such a builder does not compile.
-/

namespace NodeKit.Rust

/-! ### Text -/

/-- The input after the text `t`, when it starts with it. -/
def afterText (t : String) (cs : List Char) : Option (List Char) := t.toList.isPrefixOf? cs

/-- The input before the text `t`, when it ends with it. -/
def beforeText (t : String) (cs : List Char) : Option (List Char) := t.toList.isSuffixOf? cs

/-- A character of an identifier as it is written, the `#` of a raw one included. -/
def isIdentChar (c : Char) : Bool := isIdentRest c || c == '#'

/-- The identifier at the start of the input, as it is written, and the input after it. -/
def identToken (cs : List Char) : List Char × List Char :=
  (cs.takeWhile isIdentChar, cs.dropWhile isIdentChar)

/-! ### Values -/

/-- What a variable of a builder holds: a value, or an `Option` of one. A box is not told apart
from what it holds. -/
inductive Slot where
  | plain (v : Value)
  | optional (v : Option Value)
deriving Repr

/-- The variables in scope with what they hold; the first binding of a name is the one seen. -/
abbrev Scope := List (String × Slot)

mutual

/-- The JSON serde writes for a value; a double that is not finite is written as null. -/
def Value.toJson : Value → Json
  | .string s => .str s
  | .f64 x => if x.isFinite then .num (.double x) else .null
  | .bool b => .bool b
  | .json v => v
  | .map entries => .obj entries
  | .vec items => .arr (Value.itemsToJson items)

/-- The JSON of the items of a vector. -/
def Value.itemsToJson : List Value → List Json
  | [] => []
  | v :: rest => v.toJson :: Value.itemsToJson rest

end

/-- `is_empty` of a vector, a map or a string. -/
def Value.isEmpty? : Value → Option Bool
  | .vec items => some items.isEmpty
  | .map entries => some entries.isEmpty
  | .string s => some s.isEmpty
  | _ => none

/-- The kind whose value type is written `ty`. -/
def kindOfType (ty : List Char) : Option ValueKind :=
  [ValueKind.string, .number, .boolean, .object, .node, .any].find?
    fun k => (Module.valueType k).toList == ty

/-- The value serde reads from a JSON argument at the value type of `kind`: a number as the double
nearest to it, and a node as the object it is serialized to. -/
def readAt (kind : ValueKind) (j : Json) : Option Value :=
  match kind, j with
  | .string, .str s => some (.string s)
  | .number, .num n => some (.f64 n.toBinary64)
  | .boolean, .bool b => some (.bool b)
  | .object, .obj entries => some (.map entries)
  | .node, .obj entries => some (.json (.obj entries))
  | .any, v => some (.json v)
  | _, _ => none

/-- The value serde reads from a JSON argument at the type written `ty`: a value type, or a `Vec`
of one. -/
def argValue (ty : List Char) (j : Json) : Option Value :=
  match (afterText "Vec<" ty).bind (beforeText ">") with
  | some inner =>
    match kindOfType inner, j with
    | some kind, .arr items => (items.mapM (readAt kind)).map .vec
    | _, _ => none
  | none => (kindOfType ty).bind (readAt · j)

/-- The slot of a parameter of the type written `ty` for the argument the caller has for it: an
`Option` parameter takes `Some` of the argument or `None`, any other needs the argument. -/
def bindArgument (ty : List Char) (arg : Option Json) : Option Slot :=
  match (afterText "Option<" ty).bind (beforeText ">") with
  | some inner =>
    match arg with
    | some j => (argValue inner j).map fun v => .optional (some v)
    | none => some (.optional none)
  | none => (arg.bind (argValue ty)).map .plain

/-! ### Expressions -/

/-- The method of `Option` written after the dot, called on a slot: mapped through `Box::new`,
filtered to a non-empty value or to `true`, or with a literal filled in for `None`, kept an
`Option` or unwrapped. The literal is read even when it is not used, as the compiler reads it. -/
def Slot.call (s : Slot) (call : List Char) : Option Slot :=
  match s with
  | .plain _ => none
  | .optional o =>
    match (afterText "or_else(|| Some(" call).bind (beforeText "))") with
    | some lit => (evaluate (String.ofList lit)).map fun v => .optional (o.or (some v))
    | none =>
      match (afterText "unwrap_or_else(|| " call).bind (beforeText ")") with
      | some lit => (evaluate (String.ofList lit)).map fun v => .plain (o.getD v)
      | none =>
        if call = "map(Box::new)".toList then some (.optional o)
        else if call = "filter(|v| !v.is_empty())".toList then
          match o with
          | some v => v.isEmpty?.map fun empty => .optional (if empty then none else some v)
          | none => some (.optional none)
        else if call = "filter(|v| *v)".toList then
          match o with
          | some (.bool b) => some (.optional (if b then some (.bool b) else none))
          | some _ => none
          | none => some (.optional none)
        else none

/-- The value of a builder expression in scope `env`: a variable, a method called on one, a
variable boxed, or else a literal. -/
def evalExpr (env : Scope) (e : List Char) : Option Slot :=
  match env.lookup (String.ofList (identToken e).1), (identToken e).2 with
  | some s, [] => some s
  | some s, '.' :: call => s.call call
  | _, _ =>
    if (identToken e).1 = "Box".toList then
      match (afterText "::new(" (identToken e).2).bind (beforeText ")") with
      | some x =>
        match env.lookup (String.ofList x) with
        | some (.plain v) => some (.plain v)
        | _ => none
      | none => none
    else (evaluate (String.ofList e)).map .plain

/-! ### Lines -/

/-- The variable and the type a parameter line declares. -/
def paramDecl (line : List Char) : Option (String × List Char) :=
  (afterText "    " line).bind fun r =>
    (afterText ": " (identToken r).2).bind fun r' =>
      (beforeText ",\n" r').map (String.ofList (identToken r).1, ·)

/-- The scope after a default line: the empty line changes nothing, and `let x = e;` binds `x` to
the value of `e`. -/
def runDefault (env : Scope) (line : List Char) : Option Scope :=
  if line = [] then some env
  else
    (afterText "    let " line).bind fun r =>
      (afterText " = " (identToken r).2).bind fun r' => (beforeText ";\n" r').bind fun e =>
        (evalExpr env e).map fun s => (String.ofList (identToken r).1, s) :: env

/-- The field a line of the struct expression sets, with its value: `x,` takes the variable `x`,
and `x: e,` the value of `e`. -/
def readInit (env : Scope) (line : List Char) : Option (String × Slot) :=
  (afterText "        " line).bind fun r =>
    let x := String.ofList (identToken r).1
    if (identToken r).2 = ",\n".toList then (env.lookup x).map (x, ·)
    else
      (afterText ": " (identToken r).2).bind fun r' => (beforeText ",\n" r').bind fun e =>
        (evalExpr env e).map (x, ·)

/-- The variant of the node a builder returns, read off the line that opens it. -/
def variantName (line : List Char) : Option String :=
  (afterText "    Node::" line).bind fun r =>
    (afterText "(" (identToken r).2).map fun _ => String.ofList (identToken r).1

/-- One argument of a serde attribute: a word, with the string after ` = ` for a setting. -/
def serdeArg (cs : List Char) : Option ((String × Option String) × List Char) :=
  match afterText " = " (identToken cs).2 with
  | some r => (stringLiteral r).map fun s => ((String.ofList (identToken cs).1, some s.1), s.2)
  | none => some ((String.ofList (identToken cs).1, none), (identToken cs).2)

/-- The arguments of a serde attribute, separated by `, ` and closed by `)]`, and the lines
after it. -/
def serdeArgs : Nat → List Char → Option (List (String × Option String) × List Char)
  | 0, _ => none
  | fuel + 1, cs =>
    (serdeArg cs).bind fun a =>
      match afterText ")]\n" a.2 with
      | some rest => some ([a.1], rest)
      | none => (afterText ", " a.2).bind fun r => (serdeArgs fuel r).map fun s => (a.1 :: s.1, s.2)

/-- How serde writes a field of a payload: its variable, the name it is written under, whether a
`None` is left out, and its declared type. -/
structure FieldWrite where
  ident : String
  key : String
  skipNone : Bool
  type : List Char

/-- The arguments of the serde attribute at the start of a field's lines, none when there is no
attribute, and the lines after it. -/
def serdeAttribute (lines : List Char) : Option (List (String × Option String) × List Char) :=
  match afterText "    #[serde(" lines with
  | some r => serdeArgs (r.length + 1) r
  | none => some ([], lines)

/-- How a field is written, read off its lines: the serde attribute, if there is one, then the
declaration `pub x: T,`. -/
def readFieldLines (lines : List Char) : Option FieldWrite :=
  (serdeAttribute lines).bind fun a =>
    (afterText "    pub " a.2).bind fun r =>
      (afterText ": " (identToken r).2).bind fun r' => (beforeText ",\n" r').map fun ty =>
        let x := String.ofList (identToken r).1
        { ident := x
          key := ((a.1.lookup "rename").join).getD (unraw x)
          skipNone := a.1.contains ("skip_serializing_if", some "Option::is_none")
          type := ty }

/-- The entry serde writes for a field holding `s`, or `none` inside when the field is left out;
no entry at all when the value is an `Option` exactly when the declared type is not. -/
def FieldWrite.entry (w : FieldWrite) (s : Slot) : Option (Option (String × Json)) :=
  let declaredOption := ((afterText "Option<" w.type).bind (beforeText ">")).isSome
  match s with
  | .plain v => if declaredOption then none else some (some (w.key, v.toJson))
  | .optional none =>
    if declaredOption then some (if w.skipNone then none else some (w.key, .null)) else none
  | .optional (some v) => if declaredOption then some (some (w.key, v.toJson)) else none

/-! ### A call -/

/-- The JSON of the node that the generated builder of `d` returns when called with the argument
of each field that `args` has, and `None` for each it has not; `none` when the builder's text
does not compile to such a run. -/
def callBuilder (n : Naming.Scheme) (d : TypeDef) (args : List (String × Json)) : Option Json := do
  let env ← d.plan.params.mapM fun p =>
    (paramDecl (Module.paramLine n p).toList).bind fun decl =>
      (bindArgument decl.2 (Json.lookup args p.field.name)).map (decl.1, ·)
  let defaults ← (d.plan.params.mapM (Module.defaultLine n d.name)).toOption
  let env ← defaults.foldlM (fun env line => runDefault env line.toList) env
  let inits ← (d.plan.construction.inits.mapM (Module.initLine n d.name)).toOption
  let values ← inits.mapM fun line => readInit env line.toList
  let variant ← variantName (Module.constructorLine d.plan).toList
  let entries ← d.fields.mapM fun f =>
    (readFieldLines (Module.fieldLines n f).toList).bind fun w =>
      (values.lookup w.ident).bind w.entry
  return .obj ((discriminant, .str variant) :: entries.filterMap id)

end NodeKit.Rust
