import NodeKit.Json.Value

/-!
JSON pointers: `""` selects the whole document, and `/a/0/b` selects step by step, an object by
key and an array by index. In a step, `~1` stands for `/` and `~0` for `~`. An index is decimal
digits without a sign and without a leading zero (unless it is `0`), and must fit in 64 bits.
A pointer that does not start with `/`, or a step that finds nothing, selects nothing.
-/

namespace NodeKit.Json

/-- Replaces each `~1` by `/`, left to right. -/
def unescapeSlash : List Char → List Char
  | '~' :: '1' :: rest => '/' :: unescapeSlash rest
  | c :: rest => c :: unescapeSlash rest
  | [] => []

/-- Replaces each `~0` by `~`, left to right. -/
def unescapeTilde : List Char → List Char
  | '~' :: '0' :: rest => '~' :: unescapeTilde rest
  | c :: rest => c :: unescapeTilde rest
  | [] => []

/-- The key a pointer step stands for: `~1` read first, then `~0`. -/
def unescapeStep (step : String) : String :=
  String.ofList (unescapeTilde (unescapeSlash step.toList))

/-- The array index a step stands for. -/
def parseIndex? (step : String) : Option Nat :=
  match step.toList with
  | [] => none
  | '0' :: _ :: _ => none
  | cs =>
    if cs.all Char.isDigit then
      let n := cs.foldl (fun acc c => acc * 10 + (c.toNat - '0'.toNat)) 0
      if n < Nat.pow 2 64 then some n else none
    else none

/-- The value one step selects. -/
def selectStep (v : Json) (step : String) : Option Json :=
  match v with
  | .obj entries => lookup entries step
  | .arr items => (parseIndex? step).bind (items[·]?)
  | _ => none

/-- The value a pointer selects. -/
def pointer? (v : Json) (ptr : String) : Option Json :=
  if ptr.isEmpty then some v
  else match ptr.toList with
    | '/' :: _ =>
      ((ptr.splitOn "/").drop 1).foldlM (fun target step => selectStep target (unescapeStep step)) v
    | _ => none

example : parseIndex? "12" = some 12 ∧ parseIndex? "01" = none ∧ parseIndex? "+1" = none := by
  decide

end NodeKit.Json
