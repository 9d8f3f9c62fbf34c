import TableMachine.Table.Error
import TableMachine.Matcher
import TableMachine.Naming.Notification
import TableMachine.Json.Write
import TableMachine.Checksum
import TableMachine.Text.Utf8

/-!
# Compiled tables

Compiling a table fixes how it is dispatched on: every key is classified and compiled once
(`Matcher.classify`), the wildcard rule of a state moves to the end of its rules while the others
keep their authored order, and each rule carries the notifications it emits.

With terminal signals on, a rule that crosses into a state without rules (declared without
rules, or not declared at all) also emits `final`, and a state without rules carries an
`inFinal` notification.

Compiling refuses, in this order: an empty table, an empty wildcard token, then the first key
(in table order) whose pattern is refused. The checksum is the CRC-32C of the table's canonical
JSON, written compactly, as eight hexadecimal digits.
-/

namespace TableMachine

/-- The options a table is compiled with. -/
structure CompileOptions where
  /-- The key that matches every input. -/
  wildcard : String := "_"
  /-- How state identifiers become labels in notification names. -/
  capitalization : Capitalization := .firstLetter
  /-- Whether moves into states without rules emit `final`, and such states `inFinal`. -/
  terminalSignals : Bool := false
  deriving DecidableEq, Repr

/-- The options as a JSON object. -/
def CompileOptions.toJson (o : CompileOptions) : Json :=
  .obj [("wildcard", .str o.wildcard), ("capitalization", .str o.capitalization.name),
    ("terminal_signals", .bool o.terminalSignals)]

/-- A compiled rule: its matcher, its target and the notifications it emits. -/
structure CompiledRule where
  matcher : Matcher
  target : String
  notifications : List Notification

/-- The compiled rules of one state, in the order they are tried. -/
structure CompiledState where
  name : String
  rules : List CompiledRule
  inFinal : Option Notification

/-- Whether a compiled state has no rules. -/
def CompiledState.isTerminal (s : CompiledState) : Bool := s.rules.isEmpty

/-- A compiled table. -/
structure Compiled where
  states : List CompiledState
  options : CompileOptions
  source : Table
  checksum : String

namespace Table

/-- Whether a state has no rules or is not declared. -/
def isTerminalTarget (t : Table) (name : String) : Bool :=
  match t.rules? name with
  | some rules => rules.isEmpty
  | none => true

/-- The checksum of a table: CRC-32C of its canonical JSON, compactly written. -/
def checksum (t : Table) : String := hex8 (crc32c (Text.encode t.toJson.compact))

/-- Compiles one rule of `state`. -/
def compileRule (t : Table) (o : CompileOptions) (state : String) (r : Rule) :
    Except TableError CompiledRule := do
  let m ← (Matcher.classify r.key o.wildcard).mapError (.invalidPattern r.key)
  let reachesFinal := o.terminalSignals && t.isTerminalTarget r.target
  return ⟨m, r.target, moveNotifications state r.target o.capitalization reachesFinal⟩

/-- Puts the wildcard rule (the last one, if there are several) after the others. -/
def wildcardLast (rules : List CompiledRule) : List CompiledRule :=
  rules.filter (!·.matcher.isWildcard) ++ ((rules.filter (·.matcher.isWildcard)).getLast?).toList

/-- Compiles one state. -/
def compileState (t : Table) (o : CompileOptions) (e : StateEntry) :
    Except TableError CompiledState := do
  let rules := wildcardLast (← e.rules.mapM (t.compileRule o e.name))
  let inFinal := if o.terminalSignals && rules.isEmpty then some (inFinalNotification e.name) else none
  return ⟨e.name, rules, inFinal⟩

/-- Compiles a table with options. -/
def compile (t : Table) (o : CompileOptions) : Except TableError Compiled := do
  if t.isEmpty then throw (.invalidTable .noStates)
  if o.wildcard.isEmpty then throw (.invalidTable .emptyWildcard)
  let states ← t.states.mapM (t.compileState o)
  return ⟨states, o, t, t.checksum⟩

end Table

namespace Compiled

/-- The first declared state. -/
def initialState (c : Compiled) : String := (c.states.head?.map (·.name)).getD ""

/-- The compiled state of a name: the first state of that name. Where the states are indexed by
name, a later state of a name replacing an earlier one, this is the state the index gives, since
the names of a table's states are distinct (`Table.state?_eq_find?_reverse`). -/
def state? (c : Compiled) (name : String) : Option CompiledState := c.states.find? (·.name = name)

/-- Whether a state is declared. -/
def hasState (c : Compiled) (name : String) : Bool := (c.state? name).isSome

/-- Whether a state has no rules; undeclared states count as terminal. -/
def isTerminal (c : Compiled) (name : String) : Bool :=
  match c.state? name with
  | some s => s.isTerminal
  | none => true

/-- The number of compiled rules. -/
def ruleCount (c : Compiled) : Nat := (c.states.map (·.rules.length)).foldr (· + ·) 0

/-- Inserts a name into a sorted list without duplicates. -/
def insertSorted (n : String) : List String → List String
  | [] => [n]
  | m :: rest => if n < m then n :: m :: rest else if n = m then m :: rest else m :: insertSorted n rest

/-- Every notification name the table can emit, sorted and without duplicates. -/
def notificationNames (c : Compiled) : List String :=
  let names := c.states.flatMap fun s =>
    (s.rules.flatMap fun r => r.notifications.map (·.name)) ++ (s.inFinal.toList.map (·.name))
  names.foldl (fun acc n => insertSorted n acc) []

end Compiled

end TableMachine
