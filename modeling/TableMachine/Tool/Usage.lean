import TableMachine.Tool.Spec
import TableMachine.Tool.Styled
import TableMachine.Config.Basic

/-!
# Usage lines and help screens

A `Scope` is a command as the parser and the help screens see it: the name its usage line starts
with, what it does, its arguments and its subcommands. A subcommand's arguments are its own, then
the global ones, then `--help`; the top level has the global ones, `--help` and `--version`; the
`help` subcommand takes only the names of the commands to explain.

A usage line comes in two forms. The plain one (`Scope.usage`) shows `[OPTIONS]` when the command
has options besides help and version, then every positional argument, then `<COMMAND>` when a
subcommand is required. The one fitted to a command line (`Scope.smartUsage`) shows the required
arguments and those the command line used: options first, then positional arguments in order.

A help screen (`Scope.help`) is the description, the usage line and up to three sections:
the subcommands, the positional arguments and the options. Subcommands and positional
arguments are listed with their help in a column after the longest name. The option rows are
too wide for that column (the capitalization option's help alone overflows a line of 100), so
each option's help goes on the line below it, indented by ten columns, followed by the
environment variable that can give the option, with its current value, and the default value.
-/

namespace TableMachine.Tool

/-- A command as the parser and the help screens see it. -/
structure Scope where
  /-- The name its usage line starts with. -/
  usageName : String
  about : String
  args : List ArgSpec
  commands : List CommandSpec := []
  /-- Whether `--help` is one of its arguments. -/
  helpFlag : Bool := true
  deriving DecidableEq, Repr

namespace ProgramSpec

/-- The subcommands, the `help` subcommand last. -/
def allCommands (p : ProgramSpec) : List CommandSpec := p.commands ++ [helpCommand]

/-- The top level of the command line. -/
def top (p : ProgramSpec) : Scope :=
  { usageName := p.name, about := p.about, args := p.globals ++ [helpArg, versionArg],
    commands := p.allCommands }

/-- A subcommand: its own arguments, the global ones and `--help`. -/
def sub (p : ProgramSpec) (c : CommandSpec) : Scope :=
  { usageName := p.name ++ " " ++ c.name, about := c.about, args := c.args ++ p.globals ++ [helpArg] }

/-- The `help` subcommand, which takes only command names. -/
def helpScope (p : ProgramSpec) : Scope :=
  { usageName := p.name ++ " " ++ helpCommand.name, about := helpCommand.about, args := helpCommand.args,
    helpFlag := false }

/-- The scope of a subcommand. -/
def scopeOf (p : ProgramSpec) (c : CommandSpec) : Scope :=
  if c.name = helpCommand.name then p.helpScope else p.sub c

end ProgramSpec

namespace Scope

/-- The positional arguments, in order. -/
def positionals (s : Scope) : List ArgSpec := s.args.filter ArgSpec.isPositional

/-- The options and switches, in declaration order. -/
def options (s : Scope) : List ArgSpec := s.args.filter fun a => !a.isPositional

/-- Whether the command takes positional arguments. -/
def hasPositionals (s : Scope) : Bool := !s.positionals.isEmpty

/-- The argument with a long name. -/
def findLong (s : Scope) (name : String) : Option ArgSpec := s.args.find? (·.long = some name)

/-- The argument with a short name. -/
def findShort (s : Scope) (c : Char) : Option ArgSpec := s.args.find? (·.short = some c)

/-- The subcommand with a name. -/
def command? (s : Scope) (name : String) : Option CommandSpec := s.commands.find? (·.name = name)

/-- The long names, in declaration order. -/
def longs (s : Scope) : List String := s.args.filterMap (·.long)

/-- The arguments that must be given. -/
def required (s : Scope) : List ArgSpec :=
  s.positionals.filter fun a =>
    match a.kind with
    | .positional _ req many => req && !many
    | _ => false

/-- Whether the usage line shows `[OPTIONS]`: the command has options besides help and version. -/
def needsOptionsTag (s : Scope) : Bool :=
  s.options.any fun a => a.long ≠ some "help" ∧ a.long ≠ some "version"

/-- The `<COMMAND>` that ends the usage line of a command with required subcommands. -/
def commandTail (s : Scope) : Styled :=
  if s.commands.isEmpty then [] else Styled.as .placeholder " <COMMAND>"

/-- The plain usage line, without its heading. -/
def usage (s : Scope) : Styled :=
  Styled.as .literal s.usageName ++
  (if s.needsOptionsTag then Styled.as .placeholder " [OPTIONS]" else []) ++
  (s.positionals.flatMap fun a => Styled.as .placeholder (" " ++ a.placeholder)) ++
  s.commandTail

end Scope

/-- An argument as a usage line shows it: `--name <VALUE>`, `--name`, or its placeholder. -/
def ArgSpec.usagePiece (a : ArgSpec) : Styled :=
  if a.isPositional then Styled.as .placeholder a.placeholder
  else
    Styled.as .literal a.flagName ++
    match a.kind with
    | .option _ => Styled.as .placeholder (" " ++ a.placeholder)
    | _ => []

/-- The arguments of a list whose identifier is neither in `seen` nor on an earlier one. -/
def firstOfEachFrom (seen : List String) : List ArgSpec → List ArgSpec
  | [] => []
  | a :: rest =>
    if seen.contains a.id then firstOfEachFrom seen rest else a :: firstOfEachFrom (a.id :: seen) rest

/-- The arguments of a list whose identifier no earlier one has. -/
def firstOfEach (args : List ArgSpec) : List ArgSpec := firstOfEachFrom [] args

namespace Scope

/-- The usage line fitted to a command line that used some arguments: the required arguments
and the used ones, options first and then positional arguments in order; the plain line when
nothing was used. -/
def smartUsage (s : Scope) (used : List ArgSpec) : Styled :=
  if used.isEmpty then s.usage
  else
    let wanted := s.required ++ used
    let opts := firstOfEach (wanted.filter fun a => !a.isPositional)
    let poss := s.positionals.filter fun p => wanted.any (·.id = p.id)
    Styled.as .literal s.usageName ++ (opts ++ poss).flatMap (fun a => Styled.plain " " ++ a.usagePiece) ++
      s.commandTail

/-- Spaces. -/
def spaces (n : Nat) : String := String.ofList (List.replicate n ' ')

/-- The notes after an option's help: the environment variable that can give it, with its value
here, and its default value. -/
def specValues (env : Environment) (a : ArgSpec) : List String :=
  (a.env.map fun v => "[env: " ++ v ++ "=" ++ (env.get? v).getD "" ++ "]").toList ++
  (if a.takesValue then (a.default.map fun d => "[default: " ++ d ++ "]").toList else [])

/-- Rows of names and help texts, the help texts in a column two places after the longest name. -/
def columns (rows : List (Styled × Nat × String)) : List Styled :=
  let longest := (rows.map fun r => r.2.1).foldl max 0
  rows.map fun (name, width, help) =>
    Styled.plain "  " ++ name ++ Styled.plain (spaces (longest + 2 - width) ++ help)

/-- Inserts into a list sorted by a key, after the elements with an equal key. -/
def insertBy {α : Type} (key : α → Nat × String) (x : α) : List α → List α
  | [] => [x]
  | y :: ys =>
    let (kx, sx) := key x
    let (ky, sy) := key y
    if kx < ky ∨ (kx = ky ∧ sx < sy) then x :: y :: ys else y :: insertBy key x ys

/-- A list sorted by a key, keeping the order of elements with equal keys. -/
def sortBy {α : Type} (key : α → Nat × String) (xs : List α) : List α :=
  xs.foldl (fun acc x => insertBy key x acc) []

/-- The subcommands section, in listing order. -/
def commandRows (s : Scope) : List Styled :=
  columns ((sortBy (fun c => (c.order, c.name)) s.commands).map fun c =>
    (Styled.as .literal c.name, c.name.length, c.about))

/-- The positional arguments section. -/
def argumentRows (s : Scope) : List Styled :=
  columns (s.positionals.map fun a => (Styled.as .placeholder a.placeholder, a.placeholder.length, a.help))

/-- One option with its help on the line below. -/
def optionRow (env : Environment) (a : ArgSpec) : Styled :=
  let short := match a.short with
    | some c => Styled.as .literal ("-" ++ c.toString)
    | none => Styled.plain "    "
  let long := match a.long with
    | some l => (if a.short.isSome then Styled.plain ", " else []) ++ Styled.as .literal ("--" ++ l)
    | none => []
  let suffix := match a.kind with
    | .option _ => Styled.as .placeholder (" " ++ a.placeholder)
    | _ => []
  let notes := specValues env a
  let help := if notes.isEmpty then a.help else a.help ++ " " ++ " ".intercalate notes
  Styled.plain "  " ++ short ++ long ++ suffix ++ Styled.plain ("\n" ++ spaces 10 ++ help)

/-- The options section, in listing order. -/
def optionRows (env : Environment) (s : Scope) : List Styled :=
  (sortBy (fun a => (a.order, a.sortKey)) s.options).map (optionRow env)

/-- A titled section, or nothing when it has no rows. -/
def titled (title : String) (rows : List Styled) : List Styled :=
  if rows.isEmpty then []
  else [Styled.as .header (title ++ ":") ++ Styled.plain "\n" ++ Styled.joinWith (Styled.plain "\n") rows]

/-- The help screen, ending with a line break. -/
def help (env : Environment) (s : Scope) : Styled :=
  Styled.plain (s.about ++ "\n\n") ++ Styled.as .header "Usage:" ++ Styled.plain " " ++ s.usage ++
    Styled.plain "\n\n" ++
    Styled.joinWith (Styled.plain "\n\n")
      (titled "Commands" s.commandRows ++ titled "Arguments" s.argumentRows ++
        titled "Options" (s.optionRows env)) ++
    Styled.plain "\n"

end Scope

end TableMachine.Tool
