import NodeKit.Json.Value
import NodeKit.Rust.Ident
import NodeKit.Decimal.Nearest

/-!
What the literal expressions of a generated module evaluate to. A field literal is written as
`String::from("…")`, a float, `true` or `false`, `Vec::new()` or `vec![…]` of literals, an empty
`serde_json` map or one built `from_iter` a list of pairs, or `json!(…)` over JSON-like tokens.
The reader follows Rust's rules for these forms: blanks may stand between tokens; the escapes of
a string literal stand for the characters they name; a float literal is the double nearest to the
decimal it spells, and one too large for a double is refused; inside `json!` an integer literal
without a suffix is an `i32`, so one outside that range is no value at all. A map, like an object
of `json!`, inserts its entries in order, so a repeated key keeps its first place and takes the
last value. The reader covers these forms only: any other text has no value here.
-/

namespace NodeKit.Rust

/-- A value of one of the types a field literal has. -/
inductive Value where
  | string (s : String)
  | f64 (x : Binary64)
  | bool (b : Bool)
  /-- A `serde_json::Value`. -/
  | json (v : Json)
  /-- A `serde_json::Map<String, Value>`. -/
  | map (entries : List (String × Json))
  | vec (items : List Value)
deriving Repr, Inhabited

/-- Characters that may stand between tokens. -/
def isBlank (c : Char) : Bool := c == ' ' || c == '\n' || c == '\r' || c == '\t'

/-- The input after the text `t`, blanks before it skipped. -/
def skipText (t : List Char) (cs : List Char) : Option (List Char) :=
  let cs := cs.dropWhile isBlank
  if t.isPrefixOf cs then some (cs.drop t.length) else none

/-- The input after the word `w`, which no identifier character may continue. -/
def skipWord (w : List Char) (cs : List Char) : Option (List Char) :=
  match skipText w cs with
  | some rest => if (rest.head?.map isIdentRest).getD false then none else some rest
  | none => none

/-- A fixed part of an expression: punctuation, or a word. -/
inductive Piece where
  | punct (t : List Char)
  | word (w : List Char)

/-- The input after a fixed part. -/
def Piece.skip : Piece → List Char → Option (List Char)
  | .punct t, cs => skipText t cs
  | .word w, cs => skipWord w cs

/-- The input after fixed parts, in order. -/
def skipPieces : List Piece → List Char → Option (List Char)
  | [], cs => some cs
  | p :: ps, cs => (p.skip cs).bind (skipPieces ps)

/-! ### String literals -/

/-- Where the reader of a string literal's body stands: in plain text, after a backslash, after
`\u`, or inside `\u{…}` with the value and the number of the hex digits read so far. -/
inductive StringState where
  | text
  | escape
  | unicodeBrace
  | unicode (value digits : Nat)

/-- The value of a hexadecimal digit. -/
def hexValue (c : Char) : Option Nat :=
  if c.isDigit then some (c.toNat - '0'.toNat)
  else if 'a' ≤ c ∧ c ≤ 'f' then some (c.toNat - 'a'.toNat + 10)
  else if 'A' ≤ c ∧ c ≤ 'F' then some (c.toNat - 'A'.toNat + 10)
  else none

/-- The character `c` before what the rest of a reading gives. -/
def consChar (c : Char) : Option (List Char × List Char) → Option (List Char × List Char)
  | some (cs, rest) => some (c :: cs, rest)
  | none => none

/-- Reads a string literal's body up to and including its closing quote: the characters it
stands for, and the input after it. The escapes are `\n \r \t \\ \0 \' \"` and `\u{…}` with one
to six hex digits naming a character. -/
def stringBody : StringState → List Char → Option (List Char × List Char)
  | .text, '"' :: rest => some ([], rest)
  | .text, '\\' :: rest => stringBody .escape rest
  | .text, c :: rest => consChar c (stringBody .text rest)
  | .escape, 'n' :: rest => consChar '\n' (stringBody .text rest)
  | .escape, 'r' :: rest => consChar '\r' (stringBody .text rest)
  | .escape, 't' :: rest => consChar '\t' (stringBody .text rest)
  | .escape, '\\' :: rest => consChar '\\' (stringBody .text rest)
  | .escape, '0' :: rest => consChar '\x00' (stringBody .text rest)
  | .escape, '\'' :: rest => consChar '\'' (stringBody .text rest)
  | .escape, '"' :: rest => consChar '"' (stringBody .text rest)
  | .escape, 'u' :: rest => stringBody .unicodeBrace rest
  | .unicodeBrace, '{' :: rest => stringBody (.unicode 0 0) rest
  | .unicode value digits, '}' :: rest =>
    if 0 < digits ∧ (Char.ofNat value).toNat = value then
      consChar (Char.ofNat value) (stringBody .text rest)
    else none
  | .unicode value digits, c :: rest =>
    match hexValue c with
    | some d => if digits < 6 then stringBody (.unicode (16 * value + d) (digits + 1)) rest else none
    | none => none
  | _, _ => none

/-- The string literal at the start of the input, and the input after it. -/
def stringLiteral (cs : List Char) : Option (String × List Char) :=
  match cs.dropWhile isBlank with
  | '"' :: rest => (stringBody .text rest).map fun r => (String.ofList r.1, r.2)
  | _ => none

/-! ### Number literals -/

/-- Characters that continue a number literal. -/
def isNumberChar (c : Char) : Bool :=
  c.isDigit || c == '.' || c == 'e' || c == 'E' || c == '+' || c == '-'

/-- The text of the number literal at the start of the input, a leading minus included, and the
input after it. -/
def numberToken (cs : List Char) : Option (List Char × List Char) :=
  match cs.dropWhile isBlank with
  | c :: rest =>
    if c = '-' ∨ c.isDigit then some (c :: rest.takeWhile isNumberChar, rest.dropWhile isNumberChar)
    else none
  | [] => none

/-- A number literal: its sign, the decimal it spells, and whether it is a float literal, written
with a point or an exponent. -/
structure NumberLiteral where
  negative : Bool
  value : Decimal.Scientific
  isFloat : Bool

/-- The value of a run of decimal digits. -/
def digitsValue (ds : List Char) : Nat := Nat.ofDigitChars 10 ds 0

/-- The sign of an exponent, `+`, `-` or none: whether it is a minus, and the input after it. -/
def splitSign : List Char → Bool × List Char
  | '+' :: rest => (false, rest)
  | '-' :: rest => (true, rest)
  | rest => (false, rest)

/-- A decimal exponent, signed or not. -/
def readExponent (cs : List Char) : Option Int :=
  let ds := (splitSign cs).2
  if ds ≠ [] ∧ ds.all Char.isDigit then
    some (if (splitSign cs).1 then -(digitsValue ds : Int) else digitsValue ds)
  else none

/-- A leading minus, and the input after it. -/
def splitMinus : List Char → Bool × List Char
  | '-' :: rest => (true, rest)
  | rest => (false, rest)

/-- The digits after a decimal point, whether there is a point, and the input after them. -/
def splitFraction : List Char → List Char × Bool × List Char
  | '.' :: rest => (rest.takeWhile Char.isDigit, true, rest.dropWhile Char.isDigit)
  | rest => ([], false, rest)

/-- The exponent that ends a number literal: `some none` when there is none, and `none` when
what is left is no exponent. -/
def readExponentPart : List Char → Option (Option Int)
  | [] => some none
  | 'e' :: rest | 'E' :: rest => (readExponent rest).map some
  | _ => none

/-- Reads a whole number literal: a minus, digits, perhaps a point and more digits, perhaps an
exponent. -/
def readNumber (cs : List Char) : Option NumberLiteral :=
  let unsigned := (splitMinus cs).2
  let whole := unsigned.takeWhile Char.isDigit
  let fraction := splitFraction (unsigned.dropWhile Char.isDigit)
  if whole = [] then none
  else (readExponentPart fraction.2.2).map fun exp =>
    { negative := (splitMinus cs).1
      value := ⟨digitsValue (whole ++ fraction.1), exp.getD 0 - fraction.1.length⟩
      isFloat := fraction.2.1 || exp.isSome }

/-- The double a float literal stands for: the nearest to its decimal, negated after a minus. -/
def NumberLiteral.toBinary64 (lit : NumberLiteral) : Binary64 :=
  if lit.negative then lit.value.toBinary64.neg else lit.value.toBinary64

/-- The double a float literal text stands for, if it is one and not too large. -/
def readFloat (text : List Char) : Option Binary64 :=
  match readNumber text with
  | some lit => if lit.isFloat ∧ lit.toBinary64.isFinite then some lit.toBinary64 else none
  | none => none

/-- An integer literal inside `json!` is an `i32`: the number if it fits, nothing otherwise. -/
def NumberLiteral.toI32 (lit : NumberLiteral) : Option Number :=
  let n := lit.value.digits
  if lit.negative then
    if n = 0 then some (.nat 0)
    else if n ≤ Nat.pow 2 31 then some (.negInt (-(n : Int))) else none
  else if n < Nat.pow 2 31 then some (.nat n) else none

/-- The JSON number a number literal inside `json!` gives. -/
def jsonNumber (text : List Char) : Option Json :=
  match readNumber text with
  | some lit =>
    if lit.isFloat then
      if lit.toBinary64.isFinite then some (.num (.double lit.toBinary64)) else none
    else lit.toI32.map .num
  | none => none

/-! ### Expressions -/

/-- Inserts entries in order: a repeated key keeps its first place and takes the last value. -/
def insertAll (entries : List (String × Json)) : List (String × Json) :=
  entries.foldl (fun acc e => Json.setEntry acc e.1 e.2) []

/-- `String::from(` -/
def stringFrom : List Piece := [.word "String".toList, .punct "::".toList, .word "from".toList,
  .punct "(".toList]

/-- `Vec::new()` -/
def vecNew : List Piece := [.word "Vec".toList, .punct "::".toList, .word "new".toList,
  .punct "(".toList, .punct ")".toList]

/-- `vec![` -/
def vecMacro : List Piece := [.word "vec".toList, .punct "!".toList, .punct "[".toList]

/-- `::serde_json::` -/
def serdeJson : List Piece := [.punct "::".toList, .word "serde_json".toList, .punct "::".toList]

/-- `json!(` after `::serde_json::` -/
def jsonMacro : List Piece := [.word "json".toList, .punct "!".toList, .punct "(".toList]

/-- `Map::new()` after `::serde_json::` -/
def mapNew : List Piece := [.word "Map".toList, .punct "::".toList, .word "new".toList,
  .punct "(".toList, .punct ")".toList]

/-- `Map::from_iter([` after `::serde_json::` -/
def mapFromIter : List Piece := [.word "Map".toList, .punct "::".toList,
  .word "from_iter".toList, .punct "(".toList, .punct "[".toList]

/-- The rest of a comma-separated list after its item `x`: a comma and the items that `more`
reads, or the closing character `close`. -/
def listRest {α : Type} (close : Char) (more : List Char → Option (List α × List Char)) (x : α)
    (cs : List Char) : Option (List α × List Char) :=
  match cs.dropWhile isBlank with
  | ',' :: rest => (more rest).map fun s => (x :: s.1, s.2)
  | c :: rest => if c = close then some ([x], rest) else none
  | [] => none

/-- A comma-separated list up to and including the closing character `close`: nothing, or an
item that `item` reads and the rest of the list. -/
def listOf {α : Type} (close : Char) (item : List Char → Option (α × List Char))
    (more : List Char → Option (List α × List Char)) (cs : List Char) :
    Option (List α × List Char) :=
  match cs.dropWhile isBlank with
  | c :: rest =>
    if c = close then some ([], rest)
    else (item (c :: rest)).bind fun r => listRest close more r.1 r.2
  | [] => none

/-- An entry `"key": value` of a `json!` object, its value read by `value`. -/
def jsonEntry (value : List Char → Option (Json × List Char)) (cs : List Char) :
    Option ((String × Json) × List Char) :=
  (stringLiteral cs).bind fun k => (skipText [':'] k.2).bind fun afterColon =>
    (value afterColon).map fun v => ((k.1, v.1), v.2)

/-- A pair `(key, value)` of a map built `from_iter`, each part read by `part`: the key must be
a `String` and the value a JSON value. -/
def mapPair (part : List Char → Option (Value × List Char)) (cs : List Char) :
    Option ((String × Json) × List Char) :=
  (skipText ['('] cs).bind fun afterOpen => (part afterOpen).bind fun k =>
    (skipText [','] k.2).bind fun afterComma => (part afterComma).bind fun v =>
      (skipText [')'] v.2).bind fun afterPair =>
        match k.1, v.1 with
        | .string key, .json value => some ((key, value), afterPair)
        | _, _ => none

mutual

/-- The JSON value of the `json!` tokens at the start of the input. -/
def jsonValue : Nat → List Char → Option (Json × List Char)
  | 0, _ => none
  | fuel + 1, cs =>
    let cs := cs.dropWhile isBlank
    match cs with
    | '"' :: _ => (stringLiteral cs).map fun r => (.str r.1, r.2)
    | '[' :: rest => (jsonItems fuel rest).map fun r => (.arr r.1, r.2)
    | '{' :: rest => (jsonEntries fuel rest).map fun r => (.obj (insertAll r.1), r.2)
    | 'n' :: _ => (skipWord "null".toList cs).map (.null, ·)
    | 't' :: _ => (skipWord "true".toList cs).map (.bool true, ·)
    | 'f' :: _ => (skipWord "false".toList cs).map (.bool false, ·)
    | c :: _ =>
      if c = '-' ∨ c.isDigit then
        (numberToken cs).bind fun r => (jsonNumber r.1).map (·, r.2)
      else none
    | [] => none

/-- The items of a `json!` array after its `[`, up to and including the `]`. -/
def jsonItems : Nat → List Char → Option (List Json × List Char)
  | 0, _ => none
  | fuel + 1, cs => listOf ']' (jsonValue fuel) (jsonItems fuel) cs

/-- The entries of a `json!` object after its brace, up to and including the closing one. -/
def jsonEntries : Nat → List Char → Option (List (String × Json) × List Char)
  | 0, _ => none
  | fuel + 1, cs => listOf '}' (jsonEntry (jsonValue fuel)) (jsonEntries fuel) cs

end

mutual

/-- The value of the literal expression at the start of the input. -/
def expr : Nat → List Char → Option (Value × List Char)
  | 0, _ => none
  | fuel + 1, cs =>
    let cs := cs.dropWhile isBlank
    match cs with
    | 'S' :: _ =>
      (skipPieces stringFrom cs).bind fun r => (stringLiteral r).bind fun s =>
        (skipText [')'] s.2).map (.string s.1, ·)
    | 't' :: _ => (skipWord "true".toList cs).map (.bool true, ·)
    | 'f' :: _ => (skipWord "false".toList cs).map (.bool false, ·)
    | 'V' :: _ => (skipPieces vecNew cs).map (.vec [], ·)
    | 'v' :: _ =>
      (skipPieces vecMacro cs).bind fun r => (exprItems fuel r).map fun s => (.vec s.1, s.2)
    | ':' :: _ =>
      (skipPieces serdeJson cs).bind fun r =>
        match skipPieces jsonMacro r with
        | some afterMacro =>
          (jsonValue fuel afterMacro).bind fun s => (skipText [')'] s.2).map (.json s.1, ·)
        | none =>
          match skipPieces mapNew r with
          | some afterNew => some (.map [], afterNew)
          | none =>
            (skipPieces mapFromIter r).bind fun afterOpen => (mapPairs fuel afterOpen).bind fun s =>
              (skipText [')'] s.2).map (.map (insertAll s.1), ·)
    | c :: _ =>
      if c = '-' ∨ c.isDigit then
        (numberToken cs).bind fun r => (readFloat r.1).map (.f64 ·, r.2)
      else none
    | [] => none

/-- The items of `vec![…]` after its `[`, up to and including the `]`. -/
def exprItems : Nat → List Char → Option (List Value × List Char)
  | 0, _ => none
  | fuel + 1, cs => listOf ']' (expr fuel) (exprItems fuel) cs

/-- The pairs of a map built `from_iter`, after the `[`, up to and including the `]`. -/
def mapPairs : Nat → List Char → Option (List (String × Json) × List Char)
  | 0, _ => none
  | fuel + 1, cs => listOf ']' (mapPair (expr fuel)) (mapPairs fuel) cs

end

/-- The value of a literal expression, when the whole text is one. -/
def evaluate (text : String) : Option Value :=
  match expr (text.toList.length + 1) text.toList with
  | some (v, rest) => if rest.all isBlank then some v else none
  | none => none

end NodeKit.Rust
