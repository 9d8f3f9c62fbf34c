import TableMachine.Config.Load
import TableMachine.Console
import TableMachine.Diagnostics
import TableMachine.Runner

/-!
# The runner service

`Service.run` is the line-oriented runner as a program. It loads the configuration (file and
environment), checks it, reads and compiles the table, starts a machine in the configured
state (or the first declared one) and feeds it standard input line by line, writing the
notifications as JSON lines (`Runner.run`).

Along the way it logs, by default up to information: where the configuration came from, a
summary of the table and options before the run, a warning when the start state is not
declared, a warning for each line that is not UTF-8, and the totals after the run. A failure
ends the run with status 1 and `Error:` followed by the structured form of the error; a failure
to load the configuration, to validate it or to compile the table is also logged as an error
first.
-/

namespace TableMachine

namespace Service

/-- A log record of the service itself. -/
def note (level : Log.Level) (message : String) : Log.Record := ⟨level, "tabfsm", message, [], false⟩

/-- The records a run emits for its lines. -/
def lineRecord : LineEvent → Log.Record
  | .skipped lineNo e =>
    ⟨.warn, "tabfsm::runner", "Skipping line " ++ toString lineNo ++ ": not valid UTF-8 (" ++ e.message ++ ")", [], false⟩
  | .fed _ input before step => step.record before input

/-- The records that open a run: the table, its size and checksum, the start state and the
options, and a warning when the start state is not declared. -/
def startRecords (path : String) (c : Compiled) (start : String) : List Log.Record :=
  let o := c.options
  [note .info "Starting tabfsm runner",
   note .info ("  Table: " ++ path),
   note .info ("  States: " ++ toString c.states.length ++ " (checksum " ++ c.checksum ++ ")"),
   note .info ("  Initial state: " ++ start),
   note .info ("  Capitalization: " ++ o.capitalization.name ++ ", wildcard: " ++ Text.quote o.wildcard ++
     ", terminal signals: " ++ (if o.terminalSignals then "enabled" else "disabled"))] ++
  (if c.hasState start then []
   else [note .warn ("Initial state '" ++ start ++ "' is not declared; every input will be ignored")])

/-- Runs the service with an environment, a file reader and standard input. -/
def run {m : Type → Type} [Monad m] (env : Environment) (read : FileReader m) (stdin : List UInt8) :
    m Outcome := do
  let filter := Log.Filter.ofEnv env .info
  let logs (rs : List Log.Record) := filter.text env.logColors rs
  let failed (rs : List Log.Record) (debug : String) : Outcome :=
    { status := 1, stderr := logs rs ++ "Error: " ++ debug ++ "\n" }
  match ← Config.load env read with
  | .error e => pure (failed [note .error ("Failed to load config: " ++ e.message)] e.debugText)
  | .ok (config, warnings) =>
    let loaded := match env.get? "TABFSM_CONFIG" with
      | some path => [note .info ("Loaded config from " ++ path)]
      | none => []
    let before := warnings ++ loaded
    match config.validate with
    | .error e => pure (failed (before ++ [note .error e.message]) e.debugText)
    | .ok () =>
      match ← config.table.load read with
      | .error e => pure (failed before e.debugText)
      | .ok table =>
        match table.compile config.compile with
        | .error e =>
          pure (failed (before ++ [note .error ("Failed to compile table (" ++ e.code ++ "): " ++ e.message)])
            e.debugText)
        | .ok c =>
          let machine : Machine Unit := match config.table.initial with
            | some s => Machine.inState c s
            | none => Machine.new c
          let result := Runner.run machine () stdin config.output.echoState
          let s := result.summary
          let finish := note .info ("Run complete: " ++ toString s.inputs ++ " inputs, " ++ toString s.skipped ++
            " skipped, " ++ toString s.notifications ++ " notifications, final state '" ++ s.finalState ++ "'")
          let rs := before ++ [c.compiledRecord] ++ startRecords (config.table.path.getD "") c machine.state ++
            result.events.map lineRecord ++ [finish]
          pure { status := 0, stdout := result.output, stderr := logs rs }

end Service

end TableMachine
