/-!
Snake case: every ASCII uppercase letter is lowercased, and an underscore goes before it when it
starts a word. A capital starts a word after a lowercase letter or a digit (`isExported` gives
`is_exported`), and after another capital when a lowercase letter follows it, which splits an
acronym from the next word (`HTTPRequest` gives `http_request`). Every other character is kept
as it is.
-/

namespace NodeKit.Naming

/-- Whether an uppercase letter between `prev` and `next` starts a word. -/
def startsWord (prev next : Option Char) : Bool :=
  match prev with
  | some p =>
    if p.isLower || p.isDigit then true
    else if p.isUpper then (next.map Char.isLower).getD false
    else false
  | none => false

/-- Snake case of `cs`, the character before them being `prev`. -/
def snakeChars (prev : Option Char) : List Char → List Char
  | [] => []
  | c :: rest =>
    if c.isUpper then
      (if startsWord prev rest.head? then ['_', c.toLower] else [c.toLower]) ++
        snakeChars (some c) rest
    else c :: snakeChars (some c) rest

/-- The snake case of a name. -/
def snakeCase (name : String) : String := String.ofList (snakeChars none name.toList)

example : snakeCase "HTTPRequest" = "http_request" := by decide
example : snakeCase "Int32Literal" = "int32_literal" := by decide

end NodeKit.Naming
