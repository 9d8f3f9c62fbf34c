import TableMachine.Config.Basic
import TableMachine.Yaml.Value

/-!
# Configuration files

`Config.ofYaml` reads a configuration from YAML text. The file is a mapping with the sections
`table` (`path`, `initial`), `compile` (`wildcard`, `capitalization`, `terminal_signals`) and
`output` (`echo_state`); every section and setting may be left out and then keeps its default,
and keys that are not settings are skipped. An empty section (`table:`) is a section with
nothing set.

Settings that hold text take any scalar's text (`wildcard: 5` is the text `5`); the table path
and the initial state may be null. Flags must be YAML booleans (`yes` is refused). The label
policy is `first-letter` or `title-words`, or such a name as a local tag (`!title-words`). A
setting given twice in one section is refused.
-/

namespace TableMachine

namespace Config

open Yaml Decode

/-- Reads the `table` section. -/
def tableSection (d : Document) (path : Path) (depth : Nat) : Decode TableSource :=
  record d path depth "struct TableConfig"
    [⟨"path", fun p _ s => do
        let v ← option d p fun p => text d p "path string"
        pure { s with path := v }⟩,
     ⟨"initial", fun p _ s => do
        let v ← option d p fun p => text d p "a string"
        pure { s with initial := v }⟩] {}

/-- Reads the label policy. -/
def capitalizationSetting (d : Document) (path : Path) : Decode Capitalization := do
  let name ← variant d path "enum Capitalization" ["first-letter", "title-words"]
  pure (if name = "title-words" then .titleWords else .firstLetter)

/-- Reads the `compile` section. -/
def compileSection (d : Document) (path : Path) (depth : Nat) : Decode CompileOptions :=
  record d path depth "struct CompileOptions"
    [⟨"wildcard", fun p _ s => do
        let v ← text d p "a string"
        pure { s with wildcard := v }⟩,
     ⟨"capitalization", fun p _ s => do
        let v ← capitalizationSetting d p
        pure { s with capitalization := v }⟩,
     ⟨"terminal_signals", fun p _ s => do
        let v ← bool d p
        pure { s with terminalSignals := v }⟩] {}

/-- Reads the `output` section. -/
def outputSection (d : Document) (path : Path) (depth : Nat) : Decode OutputSettings :=
  record d path depth "struct OutputConfig"
    [⟨"echo_state", fun p _ s => do
        let v ← bool d p
        pure { s with echoState := v }⟩] {}

/-- Reads a whole configuration. -/
def decoder (d : Document) : Decode Config :=
  record d .root nestingLimit "struct Config"
    [⟨"table", fun p depth s => do
        let v ← tableSection d p depth
        pure { s with table := v }⟩,
     ⟨"compile", fun p depth s => do
        let v ← compileSection d p depth
        pure { s with compile := v }⟩,
     ⟨"output", fun p depth s => do
        let v ← outputSection d p depth
        pure { s with output := v }⟩] {}

/-- Reads a configuration from YAML text. -/
def ofYaml (text : String) : Except Yaml.Error Config :=
  let d := Document.load text
  d.decode (decoder d)

end Config

end TableMachine
