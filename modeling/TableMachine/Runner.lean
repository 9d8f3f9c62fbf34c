import TableMachine.Machine
import TableMachine.Json.Write
import TableMachine.Text.Utf8

/-!
# The line runner

`Runner.run` feeds a byte stream to a machine, one input per line, and writes every notification
it emits as one line of compact JSON (name, kind and payload). With `echoState` on, each input is
followed by a line `{"input": …, "state": …}` with the state after it.

Lines end at a line feed; a last line without one still counts. The line feed and then one
carriage return are cut off; what is left is the input, the empty input included. A line that is
not UTF-8 is skipped and counted, and the run goes on.

For the run the machine gets one more catch-all handler, which buffers every notification it
receives; after each input the buffer is written out and emptied. The handler is removed at the
end, so the machine keeps the handlers it had.

`Runner.run` reads a stream held in memory and writes to a text, which never fail.
`Runner.runOn` runs over any reader and writer: a read, a write or the final flush that fails
ends the run with its error at once, before the collecting handler is removed.
-/

namespace TableMachine

namespace Runner

/-- Splits bytes into lines at line feeds, `current` holding the bytes of the line being read
(last first); each line keeps its line feed, and a last piece without one is a line unless it is
empty. -/
def splitLinesFrom (current : List UInt8) : List UInt8 → List (List UInt8)
  | [] => if current.isEmpty then [] else [current.reverse]
  | b :: rest =>
    if b = 10 then (b :: current).reverse :: splitLinesFrom [] rest
    else splitLinesFrom (b :: current) rest

/-- The lines of a byte stream. -/
def splitLines (bs : List UInt8) : List (List UInt8) := splitLinesFrom [] bs

/-- Cuts one trailing byte off if it is `b`. -/
def dropSuffix (b : UInt8) (bs : List UInt8) : List UInt8 :=
  if bs.getLast? = some b then bs.dropLast else bs

/-- The input bytes of a line: without its line feed and then one carriage return. -/
def lineBytes (line : List UInt8) : List UInt8 := dropSuffix 13 (dropSuffix 10 line)

end Runner

/-- The totals of a finished run. -/
structure RunSummary where
  inputs : Nat
  skipped : Nat
  notifications : Nat
  finalState : String
  deriving DecidableEq, Repr

/-- What happened to one line. -/
inductive LineEvent where
  /-- The line (numbered from 1) is not UTF-8. -/
  | skipped (lineNo : Nat) (err : Text.Utf8Error)
  /-- The line was fed as `input` in state `before`, and dispatch gave `step`. -/
  | fed (lineNo : Nat) (input before : String) (step : Step)

/-- A finished run: the machine after it, what was written, the totals, and the events. -/
structure RunResult (α : Type) where
  machine : Machine α
  output : String
  summary : RunSummary
  events : List LineEvent

namespace Runner

variable {α : Type}

/-- The state echoed after an input. -/
def echoLine (input state : String) : String :=
  (Json.obj [("input", .str input), ("state", .str state)]).compact ++ "\n"

/-- Feeds the lines numbered from `lineNo`, writing after each input what the collecting
handler, registered under `sink`, received; accumulates output, counts and events. -/
def feed (echoState : Bool) (sink : ListenerId) (m : Machine α) (lineNo : Nat) (out : String)
    (counts : Nat × Nat × Nat) (events : List LineEvent) :
    List (List UInt8) → Machine α × String × (Nat × Nat × Nat) × List LineEvent
  | [] => (m, out, counts, events.reverse)
  | line :: rest =>
    let (inputs, skipped, written) := counts
    match Text.decode (lineBytes line) with
    | .error e =>
      feed echoState sink m (lineNo + 1) out (inputs, skipped + 1, written)
        (.skipped lineNo e :: events) rest
    | .ok input =>
      let before := m.state
      let (m', step, _) := m.transition input
      let notes := m.listeners.deliveredTo sink step.notifications
      let text := String.join (notes.map fun n => n.toJson.compact ++ "\n")
      let echo := if echoState then echoLine input m'.state else ""
      feed echoState sink m' (lineNo + 1) (out ++ text ++ echo)
        (inputs + 1, skipped, written + notes.length) (.fed lineNo input before step :: events) rest

/-- Runs a machine over a byte stream; `sink` is the collecting handler added for the run. -/
def run (m : Machine α) (sink : α) (bytes : List UInt8) (echoState : Bool) : RunResult α :=
  let (m, id) := m.onAny sink
  let (m, out, (inputs, skipped, written), events) :=
    feed echoState id m 1 "" (0, 0, 0) [] (splitLines bytes)
  let (m, _) := m.off id
  ⟨m, out, ⟨inputs, skipped, written, m.state⟩, events⟩

/-! ## Runs over streams that can fail -/

/-- What successive reads of a line give, up to the end of the input: the bytes of one line, its
line feed included if it has one, or the error the read failed with. An empty read ends the
input, as the end of the list does. -/
abbrev Reads (ε : Type) := List (Except ε (List UInt8))

/-- A writer of text that can fail: a write, and the flush at the end, gives the writer after it
or an error. -/
structure Writer (ω ε : Type) where
  write : ω → String → Except ε ω
  flush : ω → Except ε ω

variable {ω ε : Type}

/-- Writes texts one after another up to the first write that fails: the writer after the last
write that succeeded, and the error of the one that failed. -/
def Writer.writeAll (w : Writer ω ε) (out : ω) : List String → ω × Option ε
  | [] => (out, none)
  | t :: ts =>
    match w.write out t with
    | .ok out' => w.writeAll out' ts
    | .error e => (out, some e)

/-- The texts written for one input: each notification as compact JSON and a line feed, then,
with echo on, the input with the state after it and a line feed. -/
def textsFor (echoState : Bool) (notes : List Notification) (input state : String) : List String :=
  notes.flatMap (fun n => [n.toJson.compact, "\n"]) ++
    if echoState then [(Json.obj [("input", .str input), ("state", .str state)]).compact, "\n"] else []

/-- Feeds the lines of a stream numbered from `lineNo`, writing after each input what the
collecting handler, registered under `sink`, received; stops at the end of the input, or at the
first read or write that fails. Gives the machine, the writer, the events and the counts, or the
error. -/
def feedOn (w : Writer ω ε) (echoState : Bool) (sink : ListenerId) (m : Machine α) (lineNo : Nat)
    (out : ω) (counts : Nat × Nat × Nat) (events : List LineEvent) :
    Reads ε → Machine α × ω × List LineEvent × Except ε (Nat × Nat × Nat)
  | [] | .ok [] :: _ => (m, out, events.reverse, .ok counts)
  | .error e :: _ => (m, out, events.reverse, .error e)
  | .ok (b :: bs) :: rest =>
    let (inputs, skipped, written) := counts
    match Text.decode (lineBytes (b :: bs)) with
    | .error err =>
      feedOn w echoState sink m (lineNo + 1) out (inputs, skipped + 1, written)
        (.skipped lineNo err :: events) rest
    | .ok input =>
      let before := m.state
      let (m', step, _) := m.transition input
      let notes := m.listeners.deliveredTo sink step.notifications
      let events := .fed lineNo input before step :: events
      match w.writeAll out (textsFor echoState notes input m'.state) with
      | (out', some e) => (m', out', events.reverse, .error e)
      | (out', none) =>
        feedOn w echoState sink m' (lineNo + 1) out' (inputs + 1, skipped, written + notes.length)
          events rest

end Runner

/-- How a run over streams ended: the machine after it, the writer after the last write that
succeeded, the events, and the totals or the error that ended the run. -/
structure StreamRun (α ω ε : Type) where
  machine : Machine α
  writer : ω
  events : List LineEvent
  result : Except ε RunSummary

namespace Runner

variable {ω ε : Type}

/-- Runs a machine over a stream of reads and a writer; `sink` is the collecting handler added
for the run. A failed read or write, or a failed flush, ends the run with its error at once, and
only a run that ends well removes the handler again. -/
def runOn (w : Writer ω ε) (m : Machine α) (sink : α) (reads : Reads ε) (out : ω) (echoState : Bool) :
    StreamRun α ω ε :=
  let (m, id) := m.onAny sink
  match feedOn w echoState id m 1 out (0, 0, 0) [] reads with
  | (m, out, events, .error e) => ⟨m, out, events, .error e⟩
  | (m, out, events, .ok (inputs, skipped, written)) =>
    match w.flush out with
    | .error e => ⟨m, out, events, .error e⟩
    | .ok out =>
      let (m, _) := m.off id
      ⟨m, out, events, .ok ⟨inputs, skipped, written, m.state⟩⟩

end Runner

end TableMachine
