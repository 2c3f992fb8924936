import NodeKit.Validate
import NodeKit.Rust.Module

/-!
A whole generation pass: a schema is validated, its groups are collected and the module is
rendered, so an invalid schema yields its validation error and no text. A pass into a sink writes
the module in one piece, so a failed pass leaves the sink as it was; an in-memory sink is a byte
buffer, which a write cannot fail to extend. Reflection gives the group table alone, also after
validation.
-/

namespace NodeKit.Schema

/-- The generated module of a valid schema. -/
def generate (s : Schema) (n : Naming.Scheme) : Except SchemaError String := do
  s.validate n
  Rust.Module.render n s (GroupIndex.ofSchema s)

/-- A generation pass into an in-memory sink: the module's UTF-8 text is appended in one write,
and nothing is written when the pass fails. -/
def generateInto (s : Schema) (n : Naming.Scheme) :
    ExceptT SchemaError (StateM ByteArray) Unit := do
  let text ← liftExcept (s.generate n)
  modify (· ++ text.toUTF8)

/-- The group table of a valid schema, as JSON. -/
def reflect (s : Schema) (n : Naming.Scheme) : Except SchemaError Json := do
  s.validate n
  return (GroupIndex.ofSchema s).toJson

end NodeKit.Schema
