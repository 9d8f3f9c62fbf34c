import TableMachine.Tool.Commands
import TableMachine.Runner

/-!
# The interactive session

A session holds a machine on a compiled table and reads standard input line by line. A line
that starts with `:` is a command: `:state`, `:reset`, `:render`, `:names`, `:help` (`:h`) and
`:quit` (`:q`, `:exit`), matched after trimming the white space around it. Any other line is fed
to the machine exactly as typed, and the step is shown as `run` shows it, with the
notifications that the session's catch-all handler captured. `:reset` starts the session anew
on its table and the state it was asked to start in, with a new machine and a new handler.
Each answer is followed by an empty line; an empty line is skipped.

Lines end at a line feed, which is cut off with one carriage return before it. The session ends
at the end of input (`^D`), at `:quit`, or at a line that is not UTF-8, which is reported as a read
error. Input never comes from a terminal here, so nothing is echoed and no prompt is shown; the
line editor notes each read in a debugging record.
-/

namespace TableMachine.Tool

open TableMachine.Text

/-- The help of the session's commands. -/
def sessionHelp : String :=
  "Any line that does not start with ':' is fed to the machine as an input\n" ++
  "token, exactly as typed.\n\n" ++
  "Commands:\n" ++
  "  :state        Show the current state\n" ++
  "  :reset        Return to the initial state\n" ++
  "  :render       Print the compiled dispatch logic\n" ++
  "  :names        List every notification name the table can emit\n" ++
  "  :help         Show this help\n" ++
  "  :quit         Exit the REPL"

/-- What a line of the session does. -/
inductive Reply where
  | print (text : String)
  | quit
  deriving DecidableEq, Repr

/-- An interactive session on a table. -/
structure Session where
  table : Compiled
  /-- The state asked for at the start, which `:reset` returns to. -/
  initial : Option String
  /-- The machine, whose catch-all handler captures what each input emits. -/
  machine : Machine Unit

namespace Session

/-- A session in the state asked for, or the table's first state, with the capturing handler
registered; with the warning for a state the table does not declare. -/
def start (c : Compiled) (initial : Option String) : Session × List Log.Record :=
  let (m, warning) := newMachine c initial
  let (m, _) := m.onAny ()
  (⟨c, initial, m⟩, warning)

/-- The current state, marked when the table does not declare it or it has no rules. -/
def describeState (colors : Bool) (s : Session) : String :=
  let state := s.machine.state
  let tag :=
    if !s.table.hasState state then Style.paintNested colors (Style.fg .yellow) " (undeclared)"
    else if s.machine.isTerminal then Style.paintNested colors Style.dim " (terminal)"
    else ""
  tint colors .cyan state ++ tag

/-- Answers a session command. -/
def command (colors : Bool) (s : Session) (cmd : String) : Session × Reply × List Log.Record :=
  match cmd with
  | "q" | "quit" | "exit" => (s, .quit, [])
  | "h" | "help" => (s, .print sessionHelp, [])
  | "state" => (s, .print (s.describeState colors), [])
  | "reset" =>
    let (s', warning) := start s.table s.initial
    (s', .print (tint colors .green "Reset to" ++ " " ++ tint colors .cyan s'.machine.state), warning)
  | "render" => (s, .print (trimEnd s.table.render), [])
  | "names" => (s, .print ("\n".intercalate s.table.notificationNames), [])
  | other => (s, .print ("Unknown command: :" ++ other ++ ". Type ':help' for help."), [])

/-- Answers a line: a command, or an input fed to the machine. -/
def handle (colors : Bool) (s : Session) (line : String) : Session × Reply × List Log.Record :=
  match line.toList with
  | ':' :: cmd => s.command colors (trim (String.ofList cmd))
  | _ =>
    let (m, step, calls) := s.machine.transition line
    -- what the handlers received is what the session captured
    let captured := calls.map (·.2)
    ({ s with machine := m }, .print (stepText colors line s.machine.state m.state captured),
      [step.record s.machine.state line])

end Session

/-- The record the line editor writes for each read. -/
def readRecord : Log.Record := ⟨.debug, "rustyline", "stdin is not a tty", [], true⟩

/-- The text of a line without its line feed and, if it had one, a carriage return before it. -/
def lineText (s : String) : String :=
  match s.toList.reverse with
  | '\n' :: '\r' :: rest => String.ofList rest.reverse
  | '\n' :: rest => String.ofList rest.reverse
  | _ => s

/-- Runs a session over the lines of its input: what it prints and the log records. -/
def Session.run (colors : Bool) (s : Session) : List (List UInt8) → String × List Log.Record
  | [] => ("^D\n", [readRecord])
  | line :: rest =>
    match Text.decode line with
    | .error _ =>
      (tint colors .red "Error" ++ ": Io(" ++ ReadError.notUtf8.debugText ++ ")\n", [readRecord])
    | .ok raw =>
      let text := lineText raw
      if text.isEmpty then
        let (out, rs) := Session.run colors s rest
        (out, readRecord :: rs)
      else
        match s.handle colors text with
        | (_, .quit, rs) => ("", readRecord :: rs)
        | (s', .print answer, rs) =>
          let (out, more) := Session.run colors s' rest
          (answer ++ "\n\n" ++ out, readRecord :: rs ++ more)

/-- The whole session: the banner, then the answers. -/
def repl (colors : Bool) (c : Compiled) (initial : Option String) (stdin : List UInt8) :
    String × List Log.Record :=
  let (s, warning) := Session.start c initial
  let banner := Style.paintNested colors { bold := true, color := some .cyan } "tabfsm REPL" ++ "\n" ++
    toString c.states.length ++ " states, checksum " ++ c.checksum ++ "\n" ++
    "Starting in " ++ tint colors .cyan s.machine.state ++ "\n" ++
    "Type ':help' for available commands.\n\n"
  let (out, rs) := s.run colors (Runner.splitLines stdin)
  (banner ++ out, warning ++ rs)

end TableMachine.Tool
