import NodeKit.Json.Value
import NodeKit.Json.Path

/-!
The machinery of reading JSON text: the faults a reader reports, with the byte offset they point
at and the path of the value being read, and the cursor that walks the text. A cursor holds the
characters left and the number of UTF-8 bytes already passed, since a fault's line and column
count bytes. A fault seen by looking at the next character points one byte past it.
-/

namespace NodeKit.Json

/-- What went wrong while reading JSON text. -/
inductive SyntaxCode where
  | eofList
  | eofObject
  | eofString
  | eofValue
  | expectedColon
  | expectedListCommaOrEnd
  | expectedObjectCommaOrEnd
  | expectedIdent
  | expectedValue
  | invalidEscape
  | invalidNumber
  | numberOutOfRange
  | controlCharacter
  | keyMustBeString
  | loneLeadingSurrogate
  | trailingComma
  | unexpectedEndOfHexEscape
  | recursionLimit
deriving DecidableEq, Repr

/-- The description of a fault, without its position. -/
def SyntaxCode.message : SyntaxCode → String
  | .eofList => "EOF while parsing a list"
  | .eofObject => "EOF while parsing an object"
  | .eofString => "EOF while parsing a string"
  | .eofValue => "EOF while parsing a value"
  | .expectedColon => "expected `:`"
  | .expectedListCommaOrEnd => "expected `,` or `]`"
  | .expectedObjectCommaOrEnd => "expected `,` or `\x7d`"
  | .expectedIdent => "expected ident"
  | .expectedValue => "expected value"
  | .invalidEscape => "invalid escape"
  | .invalidNumber => "invalid number"
  | .numberOutOfRange => "number out of range"
  | .controlCharacter => "control character (\\u0000-\\u001F) found while parsing a string"
  | .keyMustBeString => "key must be a string"
  | .loneLeadingSurrogate => "lone leading surrogate in hex escape"
  | .trailingComma => "trailing comma"
  | .unexpectedEndOfHexEscape => "unexpected end of hex escape"
  | .recursionLimit => "recursion limit exceeded"

/-- A fault in JSON text: what, at which byte, and inside which value. -/
structure SyntaxError where
  code : SyntaxCode
  offset : Nat
  path : Path
deriving Repr

/-- Line (from one) and column (bytes since the line began) of a byte offset in `text`. -/
def lineColumn (text : String) (offset : Nat) : Nat × Nat :=
  let step := fun ((line, lineStart, pos) : Nat × Nat × Nat) (ch : Char) =>
    if pos < offset ∧ ch = '\n' then (line + 1, pos + 1, pos + ch.utf8Size)
    else (line, lineStart, pos + ch.utf8Size)
  let (line, lineStart, _) := text.toList.foldl step (1, 0, 0)
  (line, offset - lineStart)

/-- The description of a fault with its line and column in `text`. -/
def SyntaxError.message (e : SyntaxError) (text : String) : String :=
  let (line, column) := lineColumn text e.offset
  e.code.message ++ " at line " ++ toString line ++ " column " ++ toString column

/-- The unread characters and the number of bytes already read. -/
structure Cursor where
  rest : List Char
  offset : Nat

/-- The offset one byte past the next one, or the end: where a fault seen by looking ahead
points. -/
def Cursor.ahead (c : Cursor) : Nat := if c.rest.isEmpty then c.offset else c.offset + 1

/-- The blanks between tokens: space, line feed, tab and carriage return. -/
def isBlank (ch : Char) : Bool := ch = ' ' ∨ ch = '\n' ∨ ch = '\t' ∨ ch = '\r'

/-- Skips blanks. -/
def skipBlank : List Char → Nat → Cursor
  | ch :: r, off => if isBlank ch then skipBlank r (off + 1) else ⟨ch :: r, off⟩
  | [], off => ⟨[], off⟩

/-- The result of a reading step: a value and the cursor after it, or a fault. -/
abbrev Reading (α : Type) := Except SyntaxError (α × Cursor)

/-- Fails with `code` at `offset` inside the value at `path`. -/
def fault {α : Type} (code : SyntaxCode) (offset : Nat) (path : Path) : Except SyntaxError α :=
  .error ⟨code, offset, path⟩

/-- The value of an ASCII decimal digit. -/
def digitValue? (ch : Char) : Option Nat :=
  if '0' ≤ ch ∧ ch ≤ '9' then some (ch.toNat - '0'.toNat) else none

/-- The value of an ASCII hexadecimal digit. -/
def hexValue? (ch : Char) : Option Nat :=
  if '0' ≤ ch ∧ ch ≤ '9' then some (ch.toNat - '0'.toNat)
  else if 'a' ≤ ch ∧ ch ≤ 'f' then some (ch.toNat - 'a'.toNat + 10)
  else if 'A' ≤ ch ∧ ch ≤ 'F' then some (ch.toNat - 'A'.toNat + 10)
  else none

/-! ## Literals -/

/-- Reads the rest of `null`, `true` or `false` after its first letter. -/
def readWord (path : Path) : List Char → Cursor → Except SyntaxError Cursor
  | [], c => .ok c
  | w :: ws, c => match c.rest with
    | [] => fault .eofValue c.offset path
    | ch :: r => if ch = w then readWord path ws ⟨r, c.offset + 1⟩
      else fault .expectedIdent (c.offset + 1) path

end NodeKit.Json
