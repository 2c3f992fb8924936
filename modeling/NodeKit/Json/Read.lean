import NodeKit.Json.Cursor
import NodeKit.Json.Read.Number
import NodeKit.Json.Read.String

/-!
Reading JSON text into a `Json` value, with the exact error of the first fault. The reader reports
a fault with the path of the value it was reading, so a fault inside the value under key `k` of an
array's third item is at `[2].k`. A fault in the punctuation between items, or in the colon after
a key, belongs to the container itself, and a fault before a key was read ends the path in `?`.
Containers may nest to a depth of 127. Text after the first value is not looked at.
-/

namespace NodeKit.Json

mutual

/-- A value, after blanks. `depth` is how many containers may still be opened; `fuel` bounds the
nesting of calls, each of which reads at least one character before it calls again. -/
def readValue (size : Nat) : Nat → Nat → Path → Cursor → Reading Json
  | 0, _, path, c => fault .eofValue c.offset path
  | fuel + 1, depth, path, c =>
    let c := skipBlank c.rest c.offset
    match c.rest with
    | [] => fault .eofValue c.ahead path
    | 'n' :: r => (readWord path ['u', 'l', 'l'] ⟨r, c.offset + 1⟩).map (.null, ·)
    | 't' :: r => (readWord path ['r', 'u', 'e'] ⟨r, c.offset + 1⟩).map (.bool true, ·)
    | 'f' :: r => (readWord path ['a', 'l', 's', 'e'] ⟨r, c.offset + 1⟩).map (.bool false, ·)
    | '-' :: r => (readNumber true path ⟨r, c.offset + 1⟩).map fun (n, c) => (.num n, c)
    | '"' :: r => (readString size path ⟨r, c.offset + 1⟩).map fun (s, c) => (.str s, c)
    | '[' :: r =>
      if depth ≤ 1 then fault .recursionLimit c.ahead path
      else readItems size fuel (depth - 1) path 0 [] ⟨r, c.offset + 1⟩
    | '{' :: r =>
      if depth ≤ 1 then fault .recursionLimit c.ahead path
      else readEntries size fuel (depth - 1) path true [] ⟨r, c.offset + 1⟩
    | ch :: _ =>
      if (digitValue? ch).isSome then
        (readNumber false path c).map fun (n, c) => (.num n, c)
      else fault .expectedValue c.ahead path

/-- The items of an array after `[`, or after the items `acc` (in reverse) read so far. -/
def readItems (size : Nat) : Nat → Nat → Path → Nat → List Json → Cursor → Reading Json
  | 0, _, path, _, _, c => fault .eofList c.offset path
  | fuel + 1, depth, path, index, acc, c =>
    let c := skipBlank c.rest c.offset
    match c.rest with
    | ']' :: r => .ok (.arr acc.reverse, ⟨r, c.offset + 1⟩)
    | [] => fault .eofList c.ahead path
    | ',' :: r =>
      if index = 0 then readItem size fuel depth path index acc c
      else
        let c := skipBlank r (c.offset + 1)
        match c.rest with
        | ']' :: _ => fault .trailingComma c.ahead path
        | [] => fault .eofValue c.ahead path
        | _ => readItem size fuel depth path index acc c
    | _ =>
      if index = 0 then readItem size fuel depth path index acc c
      else fault .expectedListCommaOrEnd c.ahead path

/-- Reads the item at `index` and goes on with the next. -/
def readItem (size : Nat) : Nat → Nat → Path → Nat → List Json → Cursor → Reading Json
  | 0, _, path, _, _, c => fault .eofList c.offset path
  | fuel + 1, depth, path, index, acc, c =>
    match readValue size fuel depth (path ++ [.index index]) c with
    | .error e => .error e
    | .ok (v, c) => readItems size fuel depth path (index + 1) (v :: acc) c

/-- The entries of an object after `{`, or after the entries `acc` read so far. -/
def readEntries (size : Nat) : Nat → Nat → Path → Bool → List (String × Json) → Cursor →
    Reading Json
  | 0, _, path, _, _, c => fault .eofObject c.offset path
  | fuel + 1, depth, path, first, acc, c =>
    let c := skipBlank c.rest c.offset
    let unread := path ++ [.unknown]
    match c.rest with
    | '}' :: r => .ok (.obj acc, ⟨r, c.offset + 1⟩)
    | [] => fault .eofObject c.ahead unread
    | ',' :: r =>
      if first then readEntry size fuel depth path acc c
      else readEntry size fuel depth path acc (skipBlank r (c.offset + 1))
    | _ =>
      if first then readEntry size fuel depth path acc c
      else fault .expectedObjectCommaOrEnd c.ahead unread

/-- Reads one key, its colon and its value, and goes on with the next entry. -/
def readEntry (size : Nat) : Nat → Nat → Path → List (String × Json) → Cursor → Reading Json
  | 0, _, path, _, c => fault .eofObject c.offset path
  | fuel + 1, depth, path, acc, c =>
    let unread := path ++ [.unknown]
    match c.rest with
    | '"' :: r =>
      match readString size unread ⟨r, c.offset + 1⟩ with
      | .error e => .error e
      | .ok (k, c) =>
        let here := path ++ [.key k]
        let c := skipBlank c.rest c.offset
        match c.rest with
        | ':' :: r =>
          match readValue size fuel depth here ⟨r, c.offset + 1⟩ with
          | .error e => .error e
          | .ok (v, c) => readEntries size fuel depth path false (Json.setEntry acc k v) c
        | [] => fault .eofObject c.ahead path
        | _ => fault .expectedColon c.ahead path
    | '}' :: _ => fault .trailingComma c.ahead unread
    | [] => fault .eofValue c.ahead unread
    | _ => fault .keyMustBeString c.ahead unread

end

/-- Reads the first JSON value of `text`; what follows it is ignored. -/
def read (text : String) : Except SyntaxError Json :=
  let size := text.utf8ByteSize
  (readValue size (3 * size + 4) 128 [] ⟨text.toList, 0⟩).map (·.1)

end NodeKit.Json
