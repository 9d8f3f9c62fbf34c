import TableMachine.Compiled.Basic
import TableMachine.Log

/-!
# Runner configuration

The runner's configuration names the table file and the state to start in (`TableSource`), the
compile options, and whether each input is echoed with the state after it
(`OutputSettings`). Every part has a default: no table, the first declared state, the default
compile options, and no echo.

Settings are layered: defaults, then a configuration file, then environment variables
(`Config.overrideFrom`). The variables `TABFSM_TABLE`, `TABFSM_INITIAL` and `TABFSM_WILDCARD`
replace their settings verbatim; `TABFSM_CAPITALIZATION` is read like any spelling of a label
policy, and a spelling that is not one is ignored with a warning; `TABFSM_TERMINAL_SIGNALS`
and `TABFSM_ECHO_STATE` are flags (`Config.flag`). Variables are read as text: one whose value
is not UTF-8 reads as unset (`OsEnvironment.text`).

`Config.validate` checks that a run can start: a table must be named (checked first), and the
wildcard must not be empty.
-/

namespace TableMachine

/-- Where the table comes from: its file, and the state to start in. -/
structure TableSource where
  path : Option String := none
  initial : Option String := none
  deriving DecidableEq, Repr

/-- What the runner writes besides notifications. -/
structure OutputSettings where
  echoState : Bool := false
  deriving DecidableEq, Repr

/-- The runner's configuration. -/
structure Config where
  table : TableSource := {}
  compile : CompileOptions := {}
  output : OutputSettings := {}
  deriving DecidableEq, Repr

/-- Environment variables: each name that is set, with its value. -/
structure Environment where
  vars : List (String × String) := []
  deriving DecidableEq, Repr

/-- The value of a variable, if it is set. -/
def Environment.get? (env : Environment) (name : String) : Option String :=
  (env.vars.find? (·.1 = name)).map (·.2)

/-- The environment as the operating system keeps it: each variable that is set, once, with its
value as bytes, which need not be UTF-8. -/
structure OsEnvironment where
  vars : List (String × List UInt8)
  names_nodup : (vars.map (·.1)).Nodup

/-- A variable as the programs read it: its name with its value, when the value is UTF-8. -/
def OsEnvironment.asText (entry : String × List UInt8) : Option (String × String) :=
  (Text.decode entry.2).toOption.map (entry.1, ·)

/-- The variables as the programs read them: a variable whose value is not UTF-8 reads as
unset. -/
def OsEnvironment.text (e : OsEnvironment) : Environment := ⟨e.vars.filterMap OsEnvironment.asText⟩

namespace Config

/-- Lower-cases ASCII letters only. -/
def lowerAscii (s : String) : String := String.ofList (s.toList.map Char.toLower)

/-- A flag's value: set unless empty or, in any ASCII case, one of `0`, `n`, `no`, `f`, `false`
and `off`. -/
def flag (value : String) : Bool :=
  !value.isEmpty && !(["0", "n", "no", "f", "false", "off"].contains (lowerAscii value))

/-- The configuration as a JSON object; absent settings are `null`. -/
def toJson (c : Config) : Json :=
  .obj [("table", .obj [("path", Json.ofOption c.table.path), ("initial", Json.ofOption c.table.initial)]),
    ("compile", c.compile.toJson), ("output", .obj [("echo_state", .bool c.output.echoState)])]

/-- Why a configuration cannot start a run. -/
def problem? (c : Config) : Option String :=
  if c.table.path.isNone then some "no transition table configured (set table.path or TABFSM_TABLE)"
  else if c.compile.wildcard.isEmpty then some "compile.wildcard must not be empty"
  else none

/-- Applies the environment's overrides; gives the configuration and the warnings. -/
def overrideFrom (c : Config) (env : Environment) : Config × List Log.Record :=
  let table := { c.table with
    path := (env.get? "TABFSM_TABLE").orElse fun _ => c.table.path
    initial := (env.get? "TABFSM_INITIAL").orElse fun _ => c.table.initial }
  let compile := { c.compile with wildcard := (env.get? "TABFSM_WILDCARD").getD c.compile.wildcard }
  let (compile, warnings) : CompileOptions × List Log.Record :=
    match env.get? "TABFSM_CAPITALIZATION" with
    | none => (compile, [])
    | some caps =>
      match Capitalization.ofString? caps with
      | .ok policy => ({ compile with capitalization := policy }, [])
      | .error msg => (compile, [⟨.warn, "tabfsm::config", "Ignoring TABFSM_CAPITALIZATION: " ++ msg, [], false⟩])
  let compile := match env.get? "TABFSM_TERMINAL_SIGNALS" with
    | some v => { compile with terminalSignals := flag v }
    | none => compile
  let output := match env.get? "TABFSM_ECHO_STATE" with
    | some v => { c.output with echoState := flag v }
    | none => c.output
  ({ table, compile, output }, warnings)

end Config

end TableMachine
