import NodeKit.Decimal.Notation
import NodeKit.Text.Printable
import NodeKit.Text.GraphemeExtend

/-!
Rust literal text as its debug formatting writes it. A string is quoted with `"`, and inside it
`\0 \t \r \n \\ \"` have short escapes, characters that extend a grapheme cluster or are not
printable become `\u{…}` with lowercase hex digits, and all others stand as they are (the
apostrophe included). A double is written with its shortest digits, positionally from `1e-4` up to
below `1e16` with at least one fractional digit, and otherwise as `1e16`, `1.5e-7`, without a `+`.
-/

namespace NodeKit.Rust

/-- `\u{…}` with the code point in lowercase hexadecimal. -/
def unicodeEscape (c : Char) : String :=
  "\\u" ++ "\x7b" ++ String.ofList (Nat.toDigits 16 c.toNat) ++ "\x7d"

/-- The text of one character inside a quoted string. -/
def escapeChar (c : Char) : String :=
  match c with
  | '\x00' => "\\0"
  | '\t' => "\\t"
  | '\r' => "\\r"
  | '\n' => "\\n"
  | '\\' => "\\\\"
  | '"' => "\\\""
  | c =>
    if Text.isGraphemeExtend c then unicodeEscape c
    else if Text.isPrintable c then String.singleton c
    else unicodeEscape c

/-- A string as a quoted string literal. -/
def quote (s : String) : String :=
  "\"" ++ String.join (s.toList.map escapeChar) ++ "\""

/-- Doubles in debug form: positional for magnitudes in `[1e-4, 1e16)`, a tie rounds up. -/
def debugNotation : Decimal.Notation :=
  { positional := some (-4, 16), plusExponent := false, pointZero := true, tie := .up }

/-- The debug text of a double. -/
def floatLiteral (x : Binary64) : String := debugNotation.render x

example : quote "a\"b\n" = "\"a\\\"b\\n\"" := by decide

end NodeKit.Rust
