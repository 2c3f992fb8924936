import NodeKit.Rust.Call

/-!
What a module declares, read off its text line by line. A line is read by the block it stands
in. At the top level, `pub fn f(…`, `pub struct S …` and `pub enum E …` declare a function, a
struct and an enum; a function whose line ends at its `(` opens its parameter list, and a struct
or an enum whose line ends in ` {` opens its body. Inside an enum each line `    V(…),` declares
a variant, inside a struct each line `    pub x: T,` a field, and inside a parameter list each
line `    x: T,` a parameter; a line that begins with `}` or `)` closes the block. No other line
(attributes, comments, `impl` blocks, function bodies) declares anything.
-/

namespace NodeKit.Rust

/-- Puts a character at the start of the first line. -/
def pushChar (c : Char) : List (List Char) → List (List Char)
  | [] => [[c]]
  | l :: ls => (c :: l) :: ls

/-- The lines of a text, each without its newline; text after the last newline is a line too. -/
def lines : List Char → List (List Char)
  | [] => []
  | c :: rest => if c = '\n' then [] :: lines rest else pushChar c (lines rest)

/-- A name a module declares, with what it names. -/
inductive Item where
  | function (name : String)
  | enum (name : String)
  | struct (name : String)
  | variant (name : String)
  | field (name : String)
  | param (name : String)
deriving DecidableEq, Repr

/-- The name an item declares. -/
def Item.name : Item → String
  | .function x | .enum x | .struct x | .variant x | .field x | .param x => x

/-- The name of a top-level function. -/
def Item.function? : Item → Option String
  | .function x => some x
  | _ => none

/-- Where a line stands: at the top level, or inside an enum, a struct or a parameter list. -/
inductive Block where
  | top
  | enum
  | struct
  | params
deriving DecidableEq, Repr

/-- The identifier at the start of the input. -/
def identAt (cs : List Char) : String := String.ofList (identToken cs).1

/-- What a line at the top level declares, and the block of the line after it. -/
def readTop (l : List Char) : List Item × Block :=
  match afterText "pub fn " l with
  | some r => ([.function (identAt r)], if (identToken r).2 = ['('] then .params else .top)
  | none =>
    match afterText "pub struct " l with
    | some r => ([.struct (identAt r)], if (identToken r).2 = [' ', '{'] then .struct else .top)
    | none =>
      match afterText "pub enum " l with
      | some r => ([.enum (identAt r)], if (identToken r).2 = [' ', '{'] then .enum else .top)
      | none => ([], .top)

/-- The member a line inside the block `b` declares, if any. -/
def readMember : Block → List Char → List Item
  | .enum, l => ((afterText "    " l).map fun r => [.variant (identAt r)]).getD []
  | .struct, l => ((afterText "    pub " l).map fun r => [.field (identAt r)]).getD []
  | .params, l => ((afterText "    " l).map fun r => [.param (identAt r)]).getD []
  | .top, _ => []

/-- What a line declares in the block `b`, and the block of the line after it. -/
def readLine (b : Block) (l : List Char) : List Item × Block :=
  if b = .top then readTop l
  else if l.head? = some '}' ∨ l.head? = some ')' then ([], .top)
  else (readMember b l, b)

/-- What lines declare, read from the block `b` on, and the block after the last of them. -/
def readLines : Block → List (List Char) → List Item × Block
  | b, [] => ([], b)
  | b, l :: ls =>
    ((readLine b l).1 ++ (readLines (readLine b l).2 ls).1, (readLines (readLine b l).2 ls).2)

/-- What a module's text declares, in the order it declares it. -/
def Module.items (text : String) : List Item := (readLines .top (lines text.toList)).1

example : Module.items "pub struct P \x7b\n    pub x: f64,\n\x7d\npub fn p(\n    x: f64,\n) -> P\n" =
    [.struct "P", .field "x", .function "p", .param "x"] := by decide

end NodeKit.Rust
