/-!
Where in a document something went wrong: a list of steps from the root, each an object key, an
array index, or a key that could not be read. The text joins keys with `.` and writes an index as
`[i]` straight after what it follows; the root alone is `.`, and an unread key is `?`.
-/

namespace NodeKit.Json

/-- One step into a document. -/
inductive Step where
  | key (name : String)
  | index (i : Nat)
  /-- A key that failed before it was read. -/
  | unknown
deriving DecidableEq, Repr

/-- A path from the root, outermost step first. -/
abbrev Path := List Step

/-- The text of one step. -/
def Step.text : Step → String
  | .key name => name
  | .index i => "[" ++ toString i ++ "]"
  | .unknown => "?"

/-- The text of a path: `.` for the root, else the steps with `.` before each non-index step
but the first. -/
def Path.text (p : Path) : String :=
  match p with
  | [] => "."
  | first :: rest => rest.foldl (fun acc s => acc ++ sep s ++ s.text) first.text
where
  /-- What stands before a step that is not the first. -/
  sep : Step → String
    | .index _ => ""
    | _ => "."

example : Path.text [.key "A", .key "unionType", .index 1] = "A.unionType[1]" := by decide
example : Path.text [.index 0, .key "a"] = "[0].a" := by decide

end NodeKit.Json
