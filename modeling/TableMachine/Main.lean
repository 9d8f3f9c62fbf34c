import TableMachine.Tool.Program

/-!
# The command-line tool as an executable

The outer layer of the tool: it gathers the environment variables the tool reads, reads files
from the disk and, for an interactive session, standard input to its end, runs `Tool.run`,
writes the two output streams and exits with the run's status.
-/

namespace TableMachine.Executable

/-- The environment variables the programs read. -/
def variableNames : List String :=
  ["TABFSM_WILDCARD", "TABFSM_CAPITALIZATION", "TABFSM_TERMINAL_SIGNALS", "TABFSM_CONFIG", "TABFSM_TABLE",
   "TABFSM_INITIAL", "TABFSM_ECHO_STATE", "RUST_LOG", "NO_COLOR", "CLICOLOR_FORCE", "HOME"]

/-- The environment of this process, as far as the programs read it. -/
def environment : IO Environment := do
  let vars ← variableNames.filterMapM fun name => do
    return (← IO.getEnv name).map (name, ·)
  return ⟨vars⟩

/-- Reads a file from the disk. -/
def readFile : FileReader IO := fun path => do
  try
    let bytes ← IO.FS.readBinFile path
    return .ok bytes.toList
  catch e =>
    match e with
    | .noFileOrDirectory .. => return .error .notFound
    | .inappropriateType _ 20 _ => return .error .notDirectory
    | _ => return .error .isDirectory

end TableMachine.Executable

/-- Runs the tool on the command line, the environment, the disk and standard input. -/
def main (args : List String) : IO UInt32 := do
  let env ← TableMachine.Executable.environment
  let stdin := do return (← (← IO.getStdin).readBinToEnd).toList
  let outcome ← TableMachine.Tool.run args env TableMachine.Executable.readFile stdin
  let out ← IO.getStdout
  out.putStr outcome.stdout
  out.flush
  let err ← IO.getStderr
  err.putStr outcome.stderr
  err.flush
  return outcome.status.toUInt32
