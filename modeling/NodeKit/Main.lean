import NodeKit.Schema.Source
import NodeKit.Generate
import NodeKit.Builder
import NodeKit.Json.Write
import NodeKit.LogLevel

/-!
The command line. `rust` writes the generated module for the merged input documents, `reflect`
prints their group table as indented JSON, and `build` builds one node from JSON arguments with the
checks a builder applies. Inputs are given with `-i`/`--input` (one or more paths, merged in order)
and an optional `--json-pointer`; `--log-level` is accepted anywhere. A failure is printed to the
standard error after `error:` and ends the program with status 1.
-/

namespace NodeKit.CommandLine

/-- The documents to read. -/
structure Inputs where
  paths : List String := []
  pointer : Option String := none

/-- What the command line asks for. -/
inductive Command where
  | rust (inputs : Inputs) (builderPrefix : String) (out : Option String)
  | reflect (inputs : Inputs) (out : Option String)
  | build (inputs : Inputs) (typeName : String) (args : String)

/-- The options of one invocation, as read so far. -/
structure Options where
  inputs : Inputs := {}
  builderPrefix : String := ""
  out : Option String := none
  typeName : Option String := none
  args : String := "\x7b\x7d"
  logLevel : String := "warn"

/-- The values after `-i` up to the next option. -/
def takeValues : List String → List String × List String
  | [] => ([], [])
  | a :: rest =>
    if a.startsWith "-" then ([], a :: rest)
    else let (vs, r) := takeValues rest; (a :: vs, r)

/-- Splits `--name=value` into `--name` and `value`. -/
def splitEquals (a : String) : List String :=
  match a.splitOn "=" with
  | name :: v :: more => if name.startsWith "--" then [name, "=".intercalate (v :: more)] else [a]
  | _ => [a]

/-- Reads options; `fuel` bounds the steps, each of which takes at least one argument. -/
def readOptions (o : Options) : Nat → List String → Except String Options
  | _, [] => .ok o
  | 0, _ => .ok o
  | fuel + 1, a :: rest =>
    match a, rest with
    | "-i", r | "--input", r =>
      match takeValues r with
      | ([], _) => .error "a value is required for '--input <INPUT>...' but none was supplied"
      | (vs, r) =>
        readOptions { o with inputs := { o.inputs with paths := o.inputs.paths ++ vs } } fuel r
    | "--json-pointer", v :: r =>
      readOptions { o with inputs := { o.inputs with pointer := some v } } fuel r
    | "--builder-prefix", v :: r => readOptions { o with builderPrefix := v } fuel r
    | "-o", v :: r | "--out", v :: r => readOptions { o with out := some v } fuel r
    | "--type", v :: r => readOptions { o with typeName := some v } fuel r
    | "--args", v :: r => readOptions { o with args := v } fuel r
    | "--log-level", v :: r => readOptions { o with logLevel := v } fuel r
    | _, _ => .error ("unexpected argument '" ++ a ++ "'")

/-- The subcommand and the other arguments: the first word that is neither an option nor the
value of `--log-level`. -/
def subcommand : List String → Option (String × List String)
  | [] => none
  | "--log-level" :: v :: r => (subcommand r).map fun (s, r') => (s, "--log-level" :: v :: r')
  | a :: r => if a.startsWith "-" then none else some (a, r)

/-- The command of an argument list. -/
def parse (argv : List String) : Except String Command := do
  let (sub, rest) ← match subcommand (argv.flatMap splitEquals) with
    | some p => pure p
    | none => throw "a subcommand is required: rust, reflect or build"
  let rest := rest.flatMap splitEquals
  let o ← readOptions {} rest.length rest
  if o.inputs.paths.isEmpty then
    throw "the following required arguments were not provided: --input <INPUT>..."
  match sub with
  | "rust" => return .rust o.inputs o.builderPrefix o.out
  | "reflect" => return .reflect o.inputs o.out
  | "build" => match o.typeName with
    | some t => return .build o.inputs t o.args
    | none => throw "the following required arguments were not provided: --type <TYPE_NAME>"
  | other => throw ("unrecognized subcommand '" ++ other ++ "'")

/-- Reads and merges the input documents. -/
def loadSchema (inputs : Inputs) : IO (Except SchemaError Schema) := do
  let mut parts : List Schema := []
  for path in inputs.paths do
    let contents ← try
        pure (some (← IO.FS.readFile path))
      catch _ => pure none
    match Schema.ofFile path contents inputs.pointer with
    | .ok s => parts := parts ++ [s]
    | .error e => return .error e
  return Schema.merge parts

/-- The parent directory of a path, if it names one. -/
def parentDir (path : String) : Option String :=
  match (path.splitOn "/").dropLast with
  | [] => none
  | [""] => none
  | ds => some ("/".intercalate ds)

/-- Writes a file, creating its directory first. -/
def writeOut (path : String) (contents : String) : IO Unit := do
  if let some dir := parentDir path then IO.FS.createDirAll dir
  IO.FS.writeFile path contents

/-- Runs a command; the error text on failure. -/
def run : Command → IO (Except String Unit)
  | .rust inputs pre out => do
    match (← loadSchema inputs) with
    | .error e => return .error e.message
    | .ok s => match s.generate { builderPrefix := pre } with
      | .error e => return .error e.message
      | .ok text =>
        match out with
        | some path => writeOut path text
        | none => IO.print text
        return .ok ()
  | .reflect inputs out => do
    match (← loadSchema inputs) with
    | .error e => return .error e.message
    | .ok s => match s.reflect {} with
      | .error e => return .error e.message
      | .ok m =>
        let text := Json.pretty 0 m
        match out with
        | some path => writeOut path text
        | none => IO.println text
        return .ok ()
  | .build inputs t argsText => do
    match (← loadSchema inputs) with
    | .error e => return .error e.message
    | .ok s =>
      let args ← match Json.read argsText with
        | .ok (.obj entries) => pure (Except.ok entries)
        | .ok v => pure (.error ("invalid --args: at JSON path . → invalid type: " ++
            v.describe ++ ", expected a map"))
        | .error e => pure (.error ("invalid --args: at JSON path " ++ e.path.text ++ " → " ++
            e.message argsText))
      match args with
      | .error msg => return .error msg
      | .ok args =>
        match Builder.new? s with
        | .error e => return .error e.message
        | .ok b => match b.build t args with
          | .error e => return .error e.message
          | .ok node =>
            IO.println (Json.pretty 0 node)
            return .ok ()

end NodeKit.CommandLine

open NodeKit.CommandLine in
def main (argv : List String) : IO UInt32 := do
  match parse argv with
  | .error msg =>
    IO.eprintln ("error: " ++ msg)
    return 2
  | .ok cmd =>
    match (← run cmd) with
    | .ok () => return 0
    | .error msg =>
      IO.eprintln ("error: " ++ msg)
      return 1
