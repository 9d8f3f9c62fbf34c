/-!
# The tool's arguments

The command-line tool takes a subcommand (`check`, `render`, `run`, `repl`, or `help`) and
options. This module describes the arguments as data: each argument's names, how it takes a
value, its help text, the environment variable that can give it and its default. The parser,
the help screens and the usage lines are all derived from this description.

Three options are global: they may be given before or after the subcommand, and an environment
variable can give each of them. `--help` (`-h`) is part of every command, `--version` (`-V`)
only of the top level.
-/

namespace TableMachine.Tool

/-- How an argument takes its value. -/
inductive ArgKind where
  /-- A switch: present or not. -/
  | flag
  /-- An option with one value. -/
  | option (valueName : String)
  /-- A value given by position; a `many` argument takes every value from its position on. -/
  | positional (valueName : String) (required : Bool) (many : Bool)
  /-- Shows the help of its command. -/
  | help
  /-- Shows the program's version. -/
  | version
  deriving DecidableEq, Repr

/-- How the values of an argument are checked. -/
inductive ValueKind where
  /-- Any text. -/
  | text
  /-- A file path, which must not be empty. -/
  | path
  /-- A label policy for notification names. -/
  | capitalization
  /-- A switch's value: false for the usual spellings of no, true otherwise. -/
  | switch
  deriving DecidableEq, Repr

/-- An argument of a command. -/
structure ArgSpec where
  id : String
  short : Option Char := none
  long : Option String := none
  kind : ArgKind
  help : String
  value : ValueKind := .text
  env : Option String := none
  default : Option String := none
  /-- The rank of an option in listings; options of equal rank are listed by name. -/
  order : Nat := 999
  deriving DecidableEq, Repr

namespace ArgSpec

/-- Whether an argument is given by position. -/
def isPositional (a : ArgSpec) : Bool :=
  match a.kind with
  | .positional .. => true
  | _ => false

/-- Whether an argument takes a value. -/
def takesValue (a : ArgSpec) : Bool :=
  match a.kind with
  | .option _ | .positional .. => true
  | _ => false

/-- The placeholder of an argument's value: `<NAME>`, or `[NAME]...` for a positional that
takes any number of values. -/
def placeholder (a : ArgSpec) : String :=
  match a.kind with
  | .option v => "<" ++ v ++ ">"
  | .positional v required many =>
    if many then "[" ++ v ++ "]..." else if required then "<" ++ v ++ ">" else "[" ++ v ++ "]"
  | _ => ""

/-- The name an argument goes by on the command line: its long form if it has one. -/
def flagName (a : ArgSpec) : String :=
  match a.long, a.short with
  | some l, _ => "--" ++ l
  | none, some c => "-" ++ c.toString
  | none, none => ""

/-- How messages name an argument: `--name <VALUE>`, `--name`, or the placeholder. -/
def display (a : ArgSpec) : String :=
  if a.isPositional then a.placeholder
  else match a.kind with
    | .option _ => a.flagName ++ " " ++ a.placeholder
    | _ => a.flagName

/-- The key options are listed by within a rank: the short name (lower case first), else the
long name. -/
def sortKey (a : ArgSpec) : String :=
  match a.short with
  | some c => c.toLower.toString ++ (if c.isLower then "0" else "1")
  | none => a.long.getD a.id

end ArgSpec

/-- A subcommand and its own arguments. -/
structure CommandSpec where
  name : String
  about : String
  args : List ArgSpec
  /-- The rank of the subcommand in listings. -/
  order : Nat
  deriving DecidableEq, Repr

/-- The whole command line of a program. -/
structure ProgramSpec where
  name : String
  about : String
  version : String
  globals : List ArgSpec
  commands : List CommandSpec
  deriving DecidableEq, Repr

/-- The help argument. -/
def helpArg : ArgSpec :=
  { id := "help", short := some 'h', long := some "help", kind := .help, help := "Print help" }

/-- The version argument. -/
def versionArg : ArgSpec :=
  { id := "version", short := some 'V', long := some "version", kind := .version, help := "Print version" }

/-- The table file argument. -/
def tableArg : ArgSpec :=
  { id := "table", kind := .positional "TABLE" true false, value := .path,
    help := "Table file (.json, .yaml or .yml)" }

/-- The start state argument. -/
def initialArg : ArgSpec :=
  { id := "initial", short := some 'i', long := some "initial", kind := .option "INITIAL",
    help := "Initial state (defaults to the first declared state)", order := 0 }

/-- The subcommand that shows help. -/
def helpCommand : CommandSpec :=
  { name := "help", about := "Print this message or the help of the given subcommand(s)", order := 999,
    args := [{ id := "subcommand", kind := .positional "COMMAND" false true,
               help := "Print help for the subcommand(s)" }] }

/-- The tool's command line. -/
def program : ProgramSpec where
  name := "tabfsm-cli"
  about := "Command-line interface for tabfsm transition tables"
  version := "0.1.0"
  globals :=
    [{ id := "wildcard", long := some "wildcard", kind := .option "WILDCARD",
       help := "Reserved catch-all matcher token", env := some "TABFSM_WILDCARD", default := some "_",
       order := 0 },
     { id := "capitalization", long := some "capitalization", kind := .option "CAPITALIZATION",
       value := .capitalization,
       help := "Label policy for notification names (first-letter or title-words)",
       env := some "TABFSM_CAPITALIZATION", default := some "first-letter", order := 1 },
     { id := "terminal_signals", long := some "terminal-signals", kind := .flag, value := .switch,
       help := "Emit final/inFinal notifications around states without rules",
       env := some "TABFSM_TERMINAL_SIGNALS", order := 2 }]
  commands :=
    [{ name := "check", about := "Validate and compile a table", order := 0, args := [tableArg] },
     { name := "render", about := "Print the compiled dispatch logic", order := 1,
       args := [tableArg,
         { id := "json", long := some "json", kind := .flag,
           help := "Print a JSON description instead of the text listing", order := 0 }] },
     { name := "run", about := "Feed inputs to a fresh machine and print each step", order := 2,
       args := [tableArg,
         { id := "inputs", kind := .positional "INPUTS" false true, help := "Input tokens, applied in order" },
         initialArg,
         { id := "json", long := some "json", kind := .flag, help := "Print notifications as JSON lines",
           order := 1 }] },
     { name := "repl", about := "Start an interactive session against a table", order := 3,
       args := [tableArg, initialArg] }]

end TableMachine.Tool
