import TableMachine.Dispatch
import TableMachine.Log

/-!
# Diagnostics of compiling and dispatching

The log records the table library itself emits: one debugging record when a table is compiled,
with its size and checksum, and one record for each dispatch, saying what the input did. A fired
rule and the inputs that change nothing are traces; an input to an undeclared state is a
debugging record.
-/

namespace TableMachine

/-- The record of a compiled table. -/
def Compiled.compiledRecord (c : Compiled) : Log.Record :=
  ⟨.debug, "tabfsm_core::compiler", "Compiled transition table: " ++ toString c.states.length ++
    " states, " ++ toString c.ruleCount ++ " rules (checksum " ++ c.checksum ++ ")", [], false⟩

/-- The record of dispatching an input in a state. -/
def Step.record (current input : String) : Step → Log.Record
  | .undeclared => ⟨.debug, "tabfsm_core::dispatch", "Dispatch from undeclared state '" ++ current ++ "' ignored", [], false⟩
  | .terminal _ =>
    ⟨.trace, "tabfsm_core::dispatch", "State '" ++ current ++ "' is terminal, input '" ++ input ++ "' ignored", [], false⟩
  | .matched r =>
    ⟨.trace, "tabfsm_core::dispatch", "'" ++ current ++ "' --" ++ r.matcher.kind.name ++ ":" ++ r.matcher.key ++
      "--> '" ++ r.target ++ "'", [], false⟩
  | .unmatched =>
    ⟨.trace, "tabfsm_core::dispatch", "No rule in state '" ++ current ++ "' matched input '" ++ input ++ "'", [], false⟩

end TableMachine
