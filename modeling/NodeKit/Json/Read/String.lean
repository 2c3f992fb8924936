import NodeKit.Json.Cursor

/-!
Reading JSON strings. A string ends at the next unescaped quote; a control character below U+0020
in it is a fault. The escapes are `\" \\ / b f n r t` and `\u` with four hexadecimal digits; a
leading surrogate must be followed by `\u` and a trailing surrogate, and a trailing surrogate
alone is a fault.
-/

namespace NodeKit.Json

/-- Four hexadecimal digits after `\u`. With fewer than four bytes left the string ends too
early; otherwise the four bytes are passed and must all be digits. -/
def readHex4 (size : Nat) (path : Path) (c : Cursor) : Reading Nat :=
  if size < c.offset + 4 then fault .eofString size path
  else match c.rest with
    | a :: b :: d :: e :: r =>
      match hexValue? a, hexValue? b, hexValue? d, hexValue? e with
      | some x1, some x2, some x3, some x4 =>
        .ok (((x1 * 16 + x2) * 16 + x3) * 16 + x4, ⟨r, c.offset + 4⟩)
      | _, _, _, _ => fault .invalidEscape (c.offset + 4) path
    | _ => fault .invalidEscape (c.offset + 4) path

/-- The character of a `\u` escape, after its four digits: a trailing surrogate alone is a
fault, and a leading one must be followed by `\u` and a trailing one. -/
def readUnicodeEscape (size : Nat) (path : Path) (c : Cursor) : Reading Char :=
  match readHex4 size path c with
  | .error e => .error e
  | .ok (n, c) =>
    if 0xDC00 ≤ n ∧ n ≤ 0xDFFF then fault .loneLeadingSurrogate c.offset path
    else if n < 0xD800 ∨ 0xDBFF < n then .ok (Char.ofNat n, c)
    else
      match c.rest with
      | [] => fault .eofString c.offset path
      | '\\' :: r =>
        match r with
        | [] => fault .eofString (c.offset + 1) path
        | 'u' :: r' =>
          match readHex4 size path ⟨r', c.offset + 2⟩ with
          | .error e => .error e
          | .ok (n2, c) =>
            if n2 < 0xDC00 ∨ 0xDFFF < n2 then fault .loneLeadingSurrogate c.offset path
            else .ok (Char.ofNat ((n - 0xD800) * 0x400 + (n2 - 0xDC00) + 0x10000), c)
        | _ :: _ => fault .unexpectedEndOfHexEscape (c.offset + 2) path
      | _ :: _ => fault .unexpectedEndOfHexEscape (c.offset + 1) path

/-- The character an escape stands for, after its backslash. -/
def readEscape (size : Nat) (path : Path) (c : Cursor) : Reading Char :=
  match c.rest with
  | [] => fault .eofString c.offset path
  | ch :: r =>
    let c' : Cursor := ⟨r, c.offset + 1⟩
    match ch with
    | '"' => .ok ('"', c')
    | '\\' => .ok ('\\', c')
    | '/' => .ok ('/', c')
    | 'b' => .ok ('\x08', c')
    | 'f' => .ok ('\x0c', c')
    | 'n' => .ok ('\n', c')
    | 'r' => .ok ('\r', c')
    | 't' => .ok ('\t', c')
    | 'u' => readUnicodeEscape size path c'
    | _ => fault .invalidEscape (c.offset + 1) path

/-- The characters of a string up to its closing quote; `fuel` bounds the characters left. -/
def stringBody (size : Nat) (path : Path) : Nat → List Char → Cursor → Reading String
  | 0, _, c => fault .eofString c.offset path
  | fuel + 1, acc, c =>
    match c.rest with
    | [] => fault .eofString c.offset path
    | '"' :: r => .ok (String.ofList acc.reverse, ⟨r, c.offset + 1⟩)
    | '\\' :: r =>
      match readEscape size path ⟨r, c.offset + 1⟩ with
      | .error e => .error e
      | .ok (ch, c) => stringBody size path fuel (ch :: acc) c
    | ch :: r =>
      if ch.toNat < 0x20 then fault .controlCharacter (c.offset + 1) path
      else stringBody size path fuel (ch :: acc) ⟨r, c.offset + ch.utf8Size⟩

/-- A string, after its opening quote. -/
def readString (size : Nat) (path : Path) (c : Cursor) : Reading String :=
  stringBody size path (c.rest.length + 1) [] c

end NodeKit.Json
