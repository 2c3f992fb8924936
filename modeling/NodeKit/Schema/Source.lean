import NodeKit.Schema.Decode
import NodeKit.Schema.Error
import NodeKit.Json.Read
import NodeKit.Json.Pointer

/-!
Loading schemas from where they come from, and merging them. A document may be given as a JSON
value, as JSON text, or as a file, optionally narrowed by a JSON pointer. Text is read first, so a
syntax error wins over a decoding error; a pointer is applied to the value read. A schema
is made from its definitions only when no two have one name, and the first name that occurs
earlier is the error. Several documents merge into one schema by concatenation under the same
rule.
-/

namespace NodeKit

/-- Where a schema document comes from. -/
inductive Source where
  /-- A JSON value; `origin` names it in messages. -/
  | value (doc : Json) (origin : String)
  /-- JSON text. -/
  | text (text : String) (origin : String)
  /-- The file at `path` with its `contents` (none when there is no such file), narrowed by an
  optional JSON pointer. -/
  | file (path : String) (contents : Option String) (pointer : Option String)

namespace Schema

/-- The first name of `names` that occurs earlier in it, with the names seen before `names`. -/
def firstRepeat (seen : List String) : List String → Option String
  | [] => none
  | n :: rest => if seen.contains n then some n else firstRepeat (n :: seen) rest

/-- The schema of definitions in order, when no type name occurs twice. -/
def new (defs : List TypeDef) : Except SchemaError Schema :=
  match firstRepeat [] (defs.map (·.name)) with
  | some n => .error (.duplicateType n)
  | none => .ok ⟨defs⟩

/-- The schema of a JSON value. -/
def ofValue (doc : Json) (origin : String) : Except SchemaError Schema :=
  match Schema.ofJson doc with
  | .ok s => new s.definitions
  | .error e => .error (.parse origin e.path e.reason.message)

/-- The JSON value of a text, or the syntax error. -/
def readText (text : String) (origin : String) : Except SchemaError Json :=
  match Json.read text with
  | .ok v => .ok v
  | .error e => .error (.parse origin e.path (e.message text))

/-- The schema of JSON text. -/
def ofText (text : String) (origin : String) : Except SchemaError Schema := do
  ofValue (← readText text origin) origin

/-- The schema of a file, narrowed by `pointer` when given. -/
def ofFile (path : String) (contents : Option String) (pointer : Option String) :
    Except SchemaError Schema := do
  let text ← match contents with
    | some text => pure text
    | none => throw (.io path (FileName.absentFault path))
  let doc ← readText text path
  let doc ← match pointer with
    | none => pure doc
    | some ptr => match doc.pointer? ptr with
      | some v => pure v
      | none => throw (.pointer path ptr)
  ofValue doc path

/-- The schema of one source. -/
def load : Source → Except SchemaError Schema
  | .value doc origin => ofValue doc origin
  | .text text origin => ofText text origin
  | .file path contents pointer => ofFile path contents pointer

/-- The concatenation of schemas, when no type name occurs twice. -/
def merge (parts : List Schema) : Except SchemaError Schema :=
  new (parts.flatMap (·.definitions))

/-- Loads the sources in order, the first failure winning, and merges them. -/
def loadAll (sources : List Source) : Except SchemaError Schema := do
  merge (← sources.mapM load)

end Schema

end NodeKit
