import TableMachine.Table.OfJson
import TableMachine.Json.Read
import TableMachine.Yaml.Error
import TableMachine.Regex.Pattern

/-!
# Table errors

Why a table cannot be loaded or compiled: its text is not JSON or not YAML, its value has the
wrong shape (or the options it is compiled with are unusable), or one of its patterns is refused.
Every error but a refused pattern is a configuration error; each has a short code for tools.
-/

namespace TableMachine

/-- Why a table cannot be loaded or compiled. -/
inductive TableError where
  | invalidTable (fault : TableFault)
  | invalidPattern (matcher : String) (cause : Regex.PatternError)
  | json (e : Json.ReadError)
  | yaml (e : Yaml.Error)
  deriving DecidableEq, Repr

namespace TableError

/-- The message of an error. -/
def message : TableError → String
  | .invalidTable f => "invalid transition table: " ++ f.reason
  | .invalidPattern m cause => "invalid pattern matcher '" ++ m ++ "': " ++ cause.message
  | .json e => "JSON error: " ++ e.message
  | .yaml e => "YAML error: " ++ e.text

/-- The short code of an error. -/
def code : TableError → String
  | .invalidPattern .. => "BAD_PATTERN"
  | _ => "BAD_TABLE"

/-- Whether the error comes from the table's configuration rather than a pattern. -/
def isConfigError : TableError → Bool
  | .invalidPattern .. => false
  | _ => true

/-- The structured form of an error, as debugging output shows it. -/
def debugText : TableError → String
  | .invalidTable f => "InvalidTable \x7b reason: " ++ Text.quote f.reason ++ " \x7d"
  | .invalidPattern m cause =>
    "InvalidPattern \x7b matcher: " ++ Text.quote m ++ ", source: " ++ cause.debugText ++ " \x7d"
  | .json e => "Json(" ++ e.debugText ++ ")"
  | .yaml e => "Yaml(" ++ e.debugText ++ ")"

end TableError

end TableMachine
