/-!
Log levels by name. A name is read without regard to case; the six levels are `off`, `error`,
`warn`, `info`, `debug` and `trace`, and any other name is no level. Lowercasing ASCII letters is
enough here: no other character lowercases to a letter of these names.
-/

namespace NodeKit

/-- How much a log shows, from nothing to everything. -/
inductive LogLevel where
  | off
  | error
  | warn
  | info
  | debug
  | trace
deriving DecidableEq, Repr

namespace LogLevel

/-- The lowercase name of a level. -/
def name : LogLevel → String
  | .off => "off"
  | .error => "error"
  | .warn => "warn"
  | .info => "info"
  | .debug => "debug"
  | .trace => "trace"

/-- The level with the given name, in any case. -/
def parse? (s : String) : Option LogLevel :=
  match s.toLower with
  | "off" => some .off
  | "error" => some .error
  | "warn" => some .warn
  | "info" => some .info
  | "debug" => some .debug
  | "trace" => some .trace
  | _ => none

end LogLevel

end NodeKit
