import TableMachine.Tool.Repl
import TableMachine.Console

/-!
# The command-line tool

`Tool.run` is the command-line tool as a program: it reads the command line, answers help and
version requests, refuses a malformed command line with status 2, and otherwise carries out the
request on the table file it names. The answer goes to standard output followed by a line break;
a table that cannot be read or compiled ends the run with status 1 and `Error: ` followed by the
message. Log records (warnings by default) go to standard error before that.

Help screens and refusals are coloured when the environment forces colours (`CLICOLOR_FORCE`
set to something other than `0`) and does not forbid them (`NO_COLOR` set to something).
-/

namespace TableMachine

/-- Whether help screens and refusals of the command line are coloured. -/
def Environment.usageColors (env : Environment) : Bool :=
  (env.get? "NO_COLOR").all String.isEmpty &&
    match env.get? "CLICOLOR_FORCE" with
    | some v => v ≠ "0"
    | none => false

namespace Tool

/-- Runs the tool with its arguments, an environment, a file reader and a reader of standard
input, which only an interactive session uses. -/
def run {m : Type → Type} [Monad m] (args : List String) (env : Environment) (read : FileReader m)
    (stdin : m (List UInt8)) : m Outcome := do
  let filter := Log.Filter.ofEnv env .warn
  let logs (rs : List Log.Record) := filter.text env.logColors rs
  let colors := env.outputColors
  let failed (rs : List Log.Record) (message : String) : Outcome :=
    { status := 1, stderr := logs rs ++ tint colors .red "Error" ++ ": " ++ message ++ "\n" }
  match parse program env args with
  | .error (.help sc) => return { stdout := (sc.help env).render env.usageColors }
  | .error (.helpOnEmpty sc) => return { status := 2, stderr := (sc.help env).render env.usageColors }
  | .error .version => return { stdout := program.name ++ " " ++ program.version ++ "\n" }
  | .error (.failure f) => return { status := 2, stderr := f.render env.usageColors }
  | .ok parsed =>
    let request := parsed.request
    let path := match request with
      | .check p | .render p _ | .run p .. | .repl p _ => p
    match ← loadTable read path parsed.options with
    | .error message => return failed [] message
    | .ok (c, loaded) =>
      match request with
      | .check _ => return { stdout := checkText colors path c ++ "\n", stderr := logs loaded }
      | .render _ json => return { stdout := renderText c json ++ "\n", stderr := logs loaded }
      | .run _ inputs initial json =>
        let (out, rs) := runText colors c inputs initial json
        return { stdout := out ++ "\n", stderr := logs (loaded ++ rs) }
      | .repl _ initial =>
        let (out, rs) := repl colors c initial (← stdin)
        return { stdout := out, stderr := logs (loaded ++ rs) }

end Tool

end TableMachine
