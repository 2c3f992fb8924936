/-!
File names as the system reads them, and why reading a file that is not there fails. A path is
its components between slashes; one that starts with a slash is looked up from the root, any
other from the working directory. `join` puts a name under a directory, an absolute name standing
alone. `absentFault` says which fault reading an absent path meets first. A NUL byte is refused
before the system sees the path, and a path of 4096 bytes or more is refused whole. Then the walk
passes the empty, `.` and `..` components, which name directories that exist, and stops at the
first other component: one longer than 255 bytes is too long, any other is not found. A path of
passable components alone names a directory, which cannot be read as text.
-/

namespace NodeKit

/-- Why a file could not be read. -/
inductive ReadFault where
  /-- The name holds a NUL byte, which no file name may hold; it never reaches the system. -/
  | nulInName
  /-- The path, or one of its components, is longer than the system takes. -/
  | nameTooLong
  /-- No file has the name. -/
  | notFound
  /-- The name is a directory's. -/
  | isDirectory
deriving DecidableEq, Repr

/-- How a read fault is reported. -/
def ReadFault.message : ReadFault → String
  | .nulInName => "file name contained an unexpected NUL byte"
  | .nameTooLong => "File name too long (os error 36)"
  | .notFound => "No such file or directory (os error 2)"
  | .isDirectory => "Is a directory (os error 21)"

namespace FileName

/-- The longest path the system takes, in bytes; its buffer of 4096 bytes also holds the NUL
that ends the path. -/
def maxPathBytes : Nat := 4095

/-- The longest component of a path, in bytes. -/
def maxComponentBytes : Nat := 255

/-- Whether a path is looked up from the root. -/
def isAbsolute (path : String) : Bool := path.toList.head? == some '/'

/-- `name` under the directory `dir`, with one slash between them unless `dir` is empty or ends
in one; an absolute `name` replaces `dir`. -/
def join (dir name : String) : String :=
  if isAbsolute name then name
  else if dir.isEmpty || dir.toList.getLast? == some '/' then dir ++ name
  else dir ++ "/" ++ name

/-- The components of a path, split at every slash. -/
def components : List Char → List (List Char)
  | [] => [[]]
  | '/' :: rest => [] :: components rest
  | c :: rest =>
    match components rest with
    | [] => [[c]]
    | first :: more => (c :: first) :: more

/-- A component that the walk passes: it names the directory the walk is in or its parent (the
root's parent is the root), which exist. -/
def isPassable (component : List Char) : Bool :=
  component == [] || component == ['.'] || component == ['.', '.']

/-- The size of a component in bytes. -/
def byteSize (component : List Char) : Nat := (component.map Char.utf8Size).foldr (· + ·) 0

/-- The first component of `path` that the walk has to look up. -/
def firstLookup (path : String) : Option (List Char) :=
  (components path.toList).find? fun c => !isPassable c

/-- Why reading `path` fails when no file has that name. -/
def absentFault (path : String) : ReadFault :=
  if path.toList.contains '\x00' then .nulInName
  else if maxPathBytes < path.utf8ByteSize then .nameTooLong
  else match firstLookup path with
    | some c => if maxComponentBytes < byteSize c then .nameTooLong else .notFound
    | none => if path.isEmpty then .notFound else .isDirectory

example : components "/a//b".toList = [[], ['a'], [], ['b']] := by decide

example : join "missing" "a.json" = "missing/a.json" ∧ join "missing" "/a" = "/a" := by
  decide +kernel

example : absentFault "a\x00b" = .nulInName ∧ absentFault "missing/a.json" = .notFound ∧
    absentFault "/" = .isDirectory ∧ absentFault "/../x" = .notFound := by
  decide +kernel

end FileName

end NodeKit
