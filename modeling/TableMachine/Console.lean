import TableMachine.Config.Basic
import TableMachine.Log.Filter

/-!
# Program runs

A program run ends with an exit status and what it wrote to standard output and standard error
(`Outcome`). Two settings of a run come from the environment:

* which log records are written (`Log.Filter.ofEnv`): the filter `RUST_LOG` gives, or the
  program's default level when it is unset or not understood;
* whether output is coloured. Log records are coloured unless `NO_COLOR` is set to something
  (`logColors`); the programs' own output only when `CLICOLOR_FORCE` is set to something other
  than `0` (`outputColors`), since it never goes to a terminal here.
-/

namespace TableMachine

/-- What a finished run shows: its exit status and its two output streams. -/
structure Outcome where
  status : Nat := 0
  stdout : String := ""
  stderr : String := ""
  deriving DecidableEq, Repr

namespace Environment

/-- Whether log records are coloured. -/
def logColors (env : Environment) : Bool := (env.get? "NO_COLOR").all String.isEmpty

/-- Whether the programs' own output is coloured. -/
def outputColors (env : Environment) : Bool :=
  match env.get? "CLICOLOR_FORCE" with
  | some v => v ≠ "0"
  | none => false

end Environment

/-- The log filter of a run: `RUST_LOG` if set and understood, else everything up to a default
level. -/
def Log.Filter.ofEnv (env : Environment) (default : Log.Level) : Log.Filter :=
  match (env.get? "RUST_LOG").bind Log.Filter.parse with
  | some f => f
  | none => Log.Filter.upTo default

/-- The lines of the records a run's filter writes, each with its line break. -/
def Log.Filter.text (f : Log.Filter) (ansi : Bool) (rs : List Log.Record) : String :=
  String.join ((f.lines ansi rs).map (· ++ "\n"))

end TableMachine
