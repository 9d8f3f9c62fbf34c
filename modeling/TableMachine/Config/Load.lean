import TableMachine.Config.Yaml
import TableMachine.Files
import TableMachine.Table.Text

/-!
# Loading the configuration

`Config.load` builds the runner's configuration from the environment and the working
directory: the defaults, replaced by the file that `TABFSM_CONFIG` names if it is set, and
then the environment's overrides, with their warnings. `TableSource.load` reads the table
that a configuration names, in the format its extension gives.

A configuration error says which file could not be read, could not be parsed, or held no
usable table, or why the configuration cannot start a run.
-/

namespace TableMachine

/-- Why the configuration or its table cannot be used. -/
inductive ConfigError where
  | io (path : String) (cause : ReadError)
  | parse (path : String) (message : String)
  | table (path : String) (cause : TableError)
  | validation (message : String)
  deriving DecidableEq, Repr

namespace ConfigError

/-- The message of an error. -/
def message : ConfigError → String
  | .io path cause => "failed to read '" ++ path ++ "': " ++ cause.message
  | .parse path msg => "failed to parse config file '" ++ path ++ "': " ++ msg
  | .table path cause => "invalid transition table '" ++ path ++ "': " ++ cause.message
  | .validation msg => "configuration validation failed: " ++ msg

/-- The name of the kind of error. -/
def kind : ConfigError → String
  | .io .. => "Io"
  | .parse .. => "Parse"
  | .table .. => "Table"
  | .validation _ => "Validation"

/-- The structured form of an error, as debugging output shows it. -/
def debugText : ConfigError → String
  | .io path cause => "Io(" ++ Text.quote path ++ ", " ++ cause.debugText ++ ")"
  | .parse path msg => "Parse(" ++ Text.quote path ++ ", " ++ Text.quote msg ++ ")"
  | .table path cause => "Table(" ++ Text.quote path ++ ", " ++ cause.debugText ++ ")"
  | .validation msg => "Validation(" ++ Text.quote msg ++ ")"

end ConfigError

namespace Config

/-- Checks that a configuration can start a run. -/
def validate (c : Config) : Except ConfigError Unit :=
  match c.problem? with
  | some msg => .error (.validation msg)
  | none => .ok ()

variable {m : Type → Type} [Monad m]

/-- Reads a configuration file. -/
def fromFile (read : FileReader m) (path : String) : m (Except ConfigError Config) := do
  match ← read.text path with
  | .error e => pure (.error (.io path e))
  | .ok text => pure ((ofYaml text).mapError fun e => .parse path e.text)

/-- Loads the configuration: the file `TABFSM_CONFIG` names, or the defaults, and then the
environment's overrides; gives the warnings of the overrides too. -/
def load (env : Environment) (read : FileReader m) : m (Except ConfigError (Config × List Log.Record)) := do
  let base ← match env.get? "TABFSM_CONFIG" with
    | some path => fromFile read path
    | none => pure (.ok {})
  pure (base.map (·.overrideFrom env))

end Config

/-- Reads the table a configuration names. -/
def TableSource.load {m : Type → Type} [Monad m] (s : TableSource) (read : FileReader m) :
    m (Except ConfigError Table) := do
  let some path := s.path | pure (.error (.validation "no transition table configured"))
  match ← read.text path with
  | .error e => pure (.error (.io path e))
  | .ok text => pure ((Table.ofText text (TableFormat.ofPath path)).mapError (.table path))

end TableMachine
