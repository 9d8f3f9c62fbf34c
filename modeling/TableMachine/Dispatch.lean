import TableMachine.Compiled.Basic

/-!
# Dispatch

`Compiled.dispatch` decides what one input does in one state, without changing anything:

* an undeclared state ignores the input (`undeclared`);
* a state without rules ignores it too (`terminal`), and carries its `inFinal` notification
  when terminal signals are on;
* otherwise the first rule whose matcher accepts the input fires (`matched`), and if none does
  the input is ignored (`unmatched`).

Dispatch never fails.
-/

namespace TableMachine

/-- The outcome of dispatching one input. -/
inductive Step where
  | matched (rule : CompiledRule)
  | unmatched
  | terminal (inFinal : Option Notification)
  | undeclared

namespace Step

/-- The state a step moves to, if it fires a rule. -/
def target : Step → Option String
  | .matched r => some r.target
  | _ => none

/-- The notifications a step emits. -/
def notifications : Step → List Notification
  | .matched r => r.notifications
  | .terminal (some n) => [n]
  | _ => []

/-- Whether a rule fired. -/
def isMatch : Step → Bool
  | .matched _ => true
  | _ => false

/-- The name of the kind of step. -/
def name : Step → String
  | .matched _ => "matched"
  | .unmatched => "unmatched"
  | .terminal _ => "terminal"
  | .undeclared => "undeclared"

end Step

/-- Dispatches an input in a state. -/
def Compiled.dispatch (c : Compiled) (current input : String) : Step :=
  match c.state? current with
  | none => .undeclared
  | some s =>
    if s.isTerminal then .terminal s.inFinal
    else
      match s.rules.find? (·.matcher.accepts input) with
      | some r => .matched r
      | none => .unmatched

end TableMachine
