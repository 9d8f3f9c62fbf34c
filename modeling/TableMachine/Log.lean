import TableMachine.Text.Style

/-!
# Log records and filters

The programs report what they do as log records: a level, the part of the program that speaks
(its target, such as `tabfsm::config`), a message and named values. A record is written as one
line: the level's name right-aligned in five columns, the target, and the message followed by
each value as `name=value`. On a terminal that takes colours the level is coloured (errors red,
warnings yellow, information green, debugging blue, traces magenta), the target dim, and each
value's name italic.

A filter (`Log.Filter`) decides which records are written; it looks at a record's level, its
target and the names of its fields. Every record has a field `message`; a record forwarded from
a library's own logger also has the forwarder's fields `log.target`, `log.module_path`,
`log.file` and `log.line`, which are never written out.
-/

namespace TableMachine

namespace Log

/-- The importance of a record, from most to least severe. -/
inductive Level where
  | error
  | warn
  | info
  | debug
  | trace
  deriving DecidableEq, Repr

namespace Level

/-- The name of a level as records show it. -/
def name : Level → String
  | .error => "ERROR"
  | .warn => "WARN"
  | .info => "INFO"
  | .debug => "DEBUG"
  | .trace => "TRACE"

/-- The colour of a level's name. -/
def color : Level → Text.Color
  | .error => .red
  | .warn => .yellow
  | .info => .green
  | .debug => .blue
  | .trace => .magenta

/-- The verbosity a level needs: 1 for errors up to 5 for traces. -/
def rank : Level → Nat
  | .error => 1
  | .warn => 2
  | .info => 3
  | .debug => 4
  | .trace => 5

end Level

/-- A log record. -/
structure Record where
  level : Level
  target : String
  message : String
  /-- Named values, each already written out. -/
  fields : List (String × String) := []
  /-- Whether the record was forwarded from a library's own logger. -/
  forwarded : Bool := false
  deriving DecidableEq, Repr

/-- The names of a record's fields, the message first. -/
def Record.fieldNames (r : Record) : List String :=
  if r.forwarded then ["message", "log.target", "log.module_path", "log.file", "log.line"]
  else "message" :: r.fields.map (·.1)

/-- The line of a record: the level padded to five columns, the target, the message and the
named values; styled when `ansi` is on. -/
def Record.line (ansi : Bool) (r : Record) : String :=
  let lvl := r.level.name
  let padded := String.ofList (List.replicate (5 - lvl.length) ' ') ++ lvl
  let dim := Text.Style.paint ansi Text.Style.dim
  let fields := String.join (r.fields.map fun (k, v) => " " ++ Text.Style.paint ansi Text.Style.slanted k ++ dim "=" ++ v)
  Text.Style.paint ansi (Text.Style.fg r.level.color) padded ++ " " ++ dim r.target ++ dim ":" ++ " " ++ r.message ++ fields

end Log

end TableMachine
