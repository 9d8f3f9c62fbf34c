import TableMachine.Tool.Styled

/-!
# Refused command lines

A refused command line is reported on standard error with exit status 2, as

```
error: <message>

  tip: <suggestion>

Usage: <usage line>

For more information, try '--help'.
```

The suggestions (names like the one given, or how to pass a value that looks like a flag),
the usage line and the pointer to `--help` each appear only when they apply: the pointer is left
out for a command without `--help`, which then ends right after the message.
-/

namespace TableMachine.Tool

/-- A refused command line. -/
structure Failure where
  message : Styled
  /-- Known names like the one given: what they are (`argument`, `subcommand`) and the names. -/
  similar : Option (String × List String) := none
  tips : List Styled := []
  usage : Option Styled := none
  /-- Whether to point to `--help`. -/
  helpHint : Bool := true
  deriving DecidableEq, Repr

namespace Failure

open Styled

/-- A quoted name in a role. -/
def quoted (r : Role) (s : String) : Styled := plain "'" ++ as r s ++ plain "'"

/-- An argument that no argument of the command matches. -/
def unknownArgument (arg : String) (usage : Styled) : Failure :=
  { message := plain "unexpected argument " ++ quoted .invalid arg ++ plain " found", usage := some usage }

/-- How to pass a value that looks like a flag. -/
def trailingTip (arg : String) : Styled :=
  plain "to pass " ++ quoted .invalid arg ++ plain " as a value, use " ++ quoted .valid ("-- " ++ arg)

/-- A flag that a subcommand named later on the command line has. -/
def subcommandTip (command flag : String) : Styled := quoted .valid (command ++ " " ++ flag) ++ plain " exists"

/-- A subcommand name written after `--`. -/
def doubleDashTip (name : String) : Styled :=
  plain "subcommand " ++ quoted .valid name ++ plain " exists; to use it, remove the " ++ quoted .invalid "--" ++
    plain " before it"

/-- A word where a subcommand is expected that names none. -/
def unrecognizedSubcommand (name : String) (usage : Styled) : Failure :=
  { message := plain "unrecognized subcommand " ++ quoted .invalid name, usage := some usage }

/-- An option given without its value. -/
def emptyValue (arg : String) : Failure :=
  { message := plain "a value is required for " ++ quoted .literal arg ++ plain " but none was supplied" }

/-- A value the argument's check refuses, with the reason. -/
def invalidValue (arg value reason : String) : Failure :=
  { message := plain "invalid value " ++ quoted .invalid value ++ plain " for " ++ quoted .literal arg ++
      plain (": " ++ reason) }

/-- A value attached to a switch. -/
def unexpectedValue (value arg : String) (usage : Styled) : Failure :=
  { message := plain "unexpected value " ++ quoted .invalid value ++ plain " for " ++ quoted .literal arg ++
      plain " found; no more were expected",
    usage := some usage }

/-- An argument given twice. -/
def repeated (arg : String) (usage : Styled) : Failure :=
  { message := plain "the argument " ++ quoted .invalid arg ++ plain " cannot be used multiple times",
    usage := some usage }

/-- Required arguments that were not given. -/
def missingRequired (args : List String) (usage : Styled) : Failure :=
  { message := plain "the following required arguments were not provided:" ++
      args.flatMap (fun a => plain "\n  " ++ as .valid a),
    usage := some usage }

/-- A command line that names no subcommand. -/
def missingSubcommand (bin : String) (names : List String) (usage : Styled) : Failure :=
  { message := quoted .invalid bin ++ plain " requires a subcommand but one was not provided" ++
      plain "\n  [subcommands: " ++ joinWith (plain ", ") (names.map (as .valid)) ++ plain "]",
    usage := some usage }

/-- The suggestion of similar names. -/
def similarText : String × List String → Styled
  | (what, [name]) => plain ("\n\n  ") ++ as .valid "tip:" ++ plain (" a similar " ++ what ++ " exists: ") ++
      quoted .valid name
  | (what, names) => plain ("\n\n  ") ++ as .valid "tip:" ++ plain (" some similar " ++ what ++ "s exist: ") ++
      joinWith (plain ", ") (names.map (quoted .valid))

/-- The whole report, ending with a line break. -/
def render (ansi : Bool) (f : Failure) : String :=
  let tips : Styled :=
    if f.tips.isEmpty then []
    else (if f.similar.isNone then plain "\n" else []) ++
      f.tips.flatMap fun t => plain "\n  " ++ as .valid "tip:" ++ plain " " ++ t
  let usage : Styled := match f.usage with
    | some u => plain "\n\n" ++ as .header "Usage:" ++ plain " " ++ u
    | none => []
  let hint : Styled :=
    if f.helpHint then plain "\n\nFor more information, try " ++ quoted .literal "--help" ++ plain ".\n"
    else plain "\n"
  Styled.render ansi
    (as .error "error:" ++ plain " " ++ f.message ++ (f.similar.map similarText).getD [] ++ tips ++ usage ++ hint)

end Failure

end TableMachine.Tool
