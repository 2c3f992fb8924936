import NodeKit.Json.Value
import NodeKit.Decimal.Notation

/-!
Compact JSON text. Strings escape the quote, the backslash and the control characters below
U+0020 (with `\b \f \n \r \t` where they exist and `\u00xx` in lowercase hex otherwise); every
other character stands as it is. Integers are written in full, and doubles with their shortest
digits: positionally from `1e-5` up to below `1e16`, always with a fractional part, and otherwise
as `1e+16` or `1.5e-7`. Compact text has no blanks between the parts of arrays and objects;
pretty text puts each item on a line of its own, indented by two spaces a level.
-/

namespace NodeKit.Json

/-- Doubles in JSON text: positional for magnitudes in `[1e-5, 1e16)`, `+` on positive
exponents, a tie between two shortest decimals going to the even one. -/
def numberNotation : Decimal.Notation :=
  { positional := some (-5, 16), plusExponent := true, pointZero := true, tie := .even }

/-- The text of a number. -/
def numberText : Number → String
  | .nat n => toString n
  | .negInt i => toString i
  | .double x => if x.isFinite then numberNotation.render x else "null"

/-- Two lowercase hexadecimal digits. -/
def hex2 (n : Nat) : String :=
  let digit (d : Nat) : Char := Nat.digitChar d
  String.ofList [digit (n / 16 % 16), digit (n % 16)]

/-- The text of one character inside a JSON string. -/
def escapeChar (c : Char) : String :=
  match c with
  | '"' => "\\\""
  | '\\' => "\\\\"
  | '\x08' => "\\b"
  | '\x0c' => "\\f"
  | '\n' => "\\n"
  | '\r' => "\\r"
  | '\t' => "\\t"
  | c => if c.toNat < 0x20 then "\\u00" ++ hex2 c.toNat else String.singleton c

/-- A string as a JSON string. -/
def quote (s : String) : String :=
  "\"" ++ String.join (s.toList.map escapeChar) ++ "\""

mutual

/-- Compact JSON text of a value. -/
def text : Json → String
  | .null => "null"
  | .bool true => "true"
  | .bool false => "false"
  | .num n => numberText n
  | .str s => quote s
  | .arr items => "[" ++ itemsText items ++ "]"
  | .obj entries => "\x7b" ++ entriesText entries ++ "\x7d"

/-- Array items, comma-separated. -/
def itemsText : List Json → String
  | [] => ""
  | [v] => text v
  | v :: rest => text v ++ "," ++ itemsText rest

/-- Object entries, comma-separated. -/
def entriesText : List (String × Json) → String
  | [] => ""
  | [(k, v)] => quote k ++ ":" ++ text v
  | (k, v) :: rest => quote k ++ ":" ++ text v ++ "," ++ entriesText rest

end

/-- `n` levels of two-space indentation. -/
def indent (n : Nat) : String := String.join (List.replicate n "  ")

mutual

/-- Indented JSON text at nesting level `depth`: each item or entry on its own line, two spaces
a level, `": "` after a key, and an empty container as its two brackets. -/
def pretty (depth : Nat) : Json → String
  | .arr [] => "[]"
  | .obj [] => "\x7b\x7d"
  | .arr items => "[\n" ++ prettyItems (depth + 1) items ++ "\n" ++ indent depth ++ "]"
  | .obj entries =>
    "\x7b\n" ++ prettyEntries (depth + 1) entries ++ "\n" ++ indent depth ++ "\x7d"
  | v => text v

/-- Array items, one a line. -/
def prettyItems (depth : Nat) : List Json → String
  | [] => ""
  | [v] => indent depth ++ pretty depth v
  | v :: rest => indent depth ++ pretty depth v ++ ",\n" ++ prettyItems depth rest

/-- Object entries, one a line. -/
def prettyEntries (depth : Nat) : List (String × Json) → String
  | [] => ""
  | [(k, v)] => indent depth ++ quote k ++ ": " ++ pretty depth v
  | (k, v) :: rest =>
    indent depth ++ quote k ++ ": " ++ pretty depth v ++ ",\n" ++ prettyEntries depth rest

end

end NodeKit.Json
