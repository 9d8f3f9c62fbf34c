import TableMachine.Tool.Parse
import TableMachine.Config.Load
import TableMachine.Diagnostics
import TableMachine.Machine
import TableMachine.Compiled.Render
import TableMachine.Unicode.Property

/-!
# The tool's commands

A command line read in full asks for one of four things (`Request`): to check a table, to
print its compiled listing (or its description as JSON), to feed it inputs and show each step,
or to start an interactive session. Each needs the table: it is read from its file, in the
format the file's extension gives, and compiled with the options of the command line
(`loadTable`); a failure is the message the tool reports.

What the commands print may be coloured: `OK` green, state names and paths cyan, notification
names yellow, the word `(ignored)` dim. A step that emitted notifications is shown as
`from --"input"--> to`, with one indented line per notification written as a call,
`enteringB("a")`; a step that emitted none as `from "input" (ignored)`. Inputs and arguments are
quoted as debugging output quotes strings.
-/

namespace TableMachine.Tool

open TableMachine.Text

/-- What a command line asks the tool to do. -/
inductive Request where
  | check (table : String)
  | render (table : String) (json : Bool)
  | run (table : String) (inputs : List String) (initial : Option String) (json : Bool)
  | repl (table : String) (initial : Option String)
  deriving DecidableEq, Repr

namespace Parsed

/-- The compile options a command line gives. -/
def options (r : Parsed) : CompileOptions :=
  { wildcard := (r.value? "wildcard").getD "_",
    capitalization :=
      ((r.value? "capitalization").bind fun v => (Capitalization.ofString? v).toOption).getD .firstLetter,
    terminalSignals := ((r.value? "terminal_signals").map Config.flag).getD false }

/-- What a command line asks for. -/
def request (r : Parsed) : Request :=
  let table := ((r.sub.find? "table").bind (·.values.getLast?)).getD ""
  let initial := (r.sub.find? "initial").bind (·.values.getLast?)
  let json := r.sub.has "json"
  match r.command.name with
  | "check" => .check table
  | "render" => .render table json
  | "run" => .run table (((r.sub.find? "inputs").map (·.values)).getD []) initial json
  | _ => .repl table initial

end Parsed

/-- The log record of a loaded table. -/
def loadedRecord (path : String) (c : Compiled) : Log.Record :=
  ⟨.debug, "tabfsm_cli::commands", "Loaded table",
    [("path", path), ("states", toString c.states.length), ("checksum", quote c.checksum)], false⟩

/-- Reads a table file and compiles it; gives the table and its log records, or the message of
the failure. -/
def loadTable {m : Type → Type} [Monad m] (read : FileReader m) (path : String) (o : CompileOptions) :
    m (Except String (Compiled × List Log.Record)) := do
  match ← read.text path with
  | .error e => return .error ("failed to read '" ++ path ++ "': " ++ e.message)
  | .ok text =>
    return match Table.ofText text (TableFormat.ofPath path) >>= (·.compile o) with
      | .error e => .error e.message
      | .ok c => .ok (c, [c.compiledRecord, loadedRecord path c])

/-- A machine in the state asked for, or the first declared one; with the warning for a state the
table does not declare. -/
def newMachine (c : Compiled) (initial : Option String) : Machine Unit × List Log.Record :=
  match initial with
  | some s =>
    (Machine.inState c s,
      if c.hasState s then []
      else [⟨.warn, "tabfsm_cli::commands", "Initial state is not declared in the table", [("state", s)], false⟩])
  | none => (Machine.new c, [])

/-- Text in a colour. -/
def tint (colors : Bool) (c : Color) (s : String) : String := Style.paintNested colors (Style.fg c) s

/-- A notification written as a call: its name and its arguments. -/
def callText (colors : Bool) (n : Notification) : String :=
  tint colors .yellow n.name ++ "(" ++ ", ".intercalate (n.args.map quote) ++ ")"

/-- One input and what it did. -/
def stepText (colors : Bool) (input before after : String) (ns : List Notification) : String :=
  let head :=
    if ns.isEmpty then
      tint colors .cyan before ++ " " ++ quote input ++ " " ++ Style.paintNested colors Style.dim "(ignored)"
    else tint colors .cyan before ++ " --" ++ quote input ++ "--> " ++ tint colors .cyan after
  head ++ String.join (ns.map fun n => "\n  " ++ callText colors n)

/-- The text without the white space at its end. -/
def trimEnd (s : String) : String :=
  String.ofList (s.toList.reverse.dropWhile (fun c => Unicode.whiteSpace.contains c.toNat)).reverse

/-- The text without the white space at either end. -/
def trim (s : String) : String :=
  String.ofList ((trimEnd s).toList.dropWhile fun c => Unicode.whiteSpace.contains c.toNat)

/-- Feeds inputs to a machine whose handlers capture what they receive: the machine after them,
one entry per input (the input, the states before and after, the notifications captured) and the
dispatch records. -/
def feedAll (m : Machine Unit) : List String →
    Machine Unit × List (String × String × String × List Notification) × List Log.Record
  | [] => (m, [], [])
  | input :: rest =>
    let (m', step, calls) := m.transition input
    let (last, steps, records) := feedAll m' rest
    (last, (input, m.state, m'.state, calls.map (·.2)) :: steps,
      step.record m.state input :: records)

/-- The output of `check`. -/
def checkText (colors : Bool) (path : String) (c : Compiled) : String :=
  tint colors .green "OK" ++ " " ++ tint colors .cyan path ++ " (" ++ toString c.states.length ++ " states, " ++
    toString c.ruleCount ++ " rules, " ++ toString (c.states.filter (·.isTerminal)).length ++
    " terminal, initial " ++ tint colors .cyan c.initialState ++ ", checksum: " ++ c.checksum ++ ")"

/-- The output of `render`. -/
def renderText (c : Compiled) (json : Bool) : String :=
  if json then c.describe.pretty 0 else trimEnd c.render

/-- The output of `run` and its log records. -/
def runText (colors : Bool) (c : Compiled) (inputs : List String) (initial : Option String) (json : Bool) :
    String × List Log.Record :=
  let (m, warning) := newMachine c initial
  -- one catch-all handler captures every notification
  let (m, _) := m.onAny ()
  let (last, steps, records) := feedAll m inputs
  let lines :=
    if json then steps.flatMap fun (_, _, _, ns) => ns.map fun n => n.toJson.compact
    else
      (steps.map fun (input, before, after, ns) => stepText colors input before after ns) ++
        [Style.paintNested colors Style.strong "state:" ++ " " ++ tint colors .cyan last.state]
  ("\n".intercalate lines, warning ++ records)

end TableMachine.Tool
