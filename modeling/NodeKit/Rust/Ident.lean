/-!
Rust identifiers. A plain identifier is an ASCII letter or `_` followed by ASCII letters, digits
and `_`. Keywords can still name things when written raw, `r#loop`, except `crate`, `self`,
`Self` and `super`, which cannot be raw; `_` names nothing. `escapeKeyword` writes a keyword raw
when that is allowed, and `unraw` strips the `r#` again.
-/

namespace NodeKit.Rust

/-- The words reserved in Rust, strict and for future use. -/
def keywords : List String :=
  ["abstract", "as", "async", "await", "become", "box", "break", "const", "continue", "crate",
   "do", "dyn", "else", "enum", "extern", "false", "final", "fn", "for", "gen", "if", "impl",
   "in", "let", "loop", "macro", "match", "mod", "move", "mut", "override", "priv", "pub", "ref",
   "return", "self", "Self", "static", "struct", "super", "trait", "true", "try", "type",
   "typeof", "unsafe", "unsized", "use", "virtual", "where", "while", "yield"]

/-- The keywords that cannot be written raw. -/
def notRaw : List String := ["crate", "self", "Self", "super"]

/-- The name is a keyword. -/
def isKeyword (name : String) : Bool := keywords.contains name

/-- The name may stand for something, if need be raw: it is not `_` and not one of the keywords
that cannot be raw. -/
def isUsable (name : String) : Bool := name != "_" && !notRaw.contains name

/-- A keyword that may be raw, written raw; any other name as it is. -/
def escapeKeyword (name : String) : String :=
  if isKeyword name && isUsable name then "r#" ++ name else name

/-- The name without a leading `r#`. -/
def unraw (name : String) : String :=
  match name.toList with
  | 'r' :: '#' :: rest => String.ofList rest
  | _ => name

/-- A character that may start an identifier. -/
def isIdentStart (c : Char) : Bool := c.isAlpha || c = '_'

/-- A character that may continue an identifier. -/
def isIdentRest (c : Char) : Bool := c.isAlphanum || c = '_'

/-- The characters form an identifier: a start character, then rest characters. -/
def isIdentChars : List Char → Bool
  | [] => false
  | c :: rest => isIdentStart c && rest.all isIdentRest

/-- The name matches `^[A-Za-z_][A-Za-z0-9_]*$`. -/
def isIdentifier (name : String) : Bool := isIdentChars name.toList

example : escapeKeyword "loop" = "r#loop" ∧ escapeKeyword "self" = "self" := by decide
example : unraw "r#static" = "static" ∧ isIdentifier "a1_" ∧ !isIdentifier "1a" := by decide

end NodeKit.Rust
