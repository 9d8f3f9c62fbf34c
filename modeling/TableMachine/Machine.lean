import TableMachine.Dispatch
import TableMachine.Listeners

/-!
# Machines

A machine holds a compiled table, a current state and a registry of listeners. A transition
dispatches the input in the current state; a fired rule moves the machine to its target, and then
every notification of the step is delivered to its handlers (`Listeners.handlersFor`). Unmatched,
terminal and undeclared steps leave the state as it is.

`Machine.transition` returns the new machine, the step and the handler calls in calling order,
each as the handler with the notification it receives.
-/

namespace TableMachine

/-- A running machine whose handlers are values of type `α`. -/
structure Machine (α : Type) where
  table : Compiled
  state : String
  listeners : Listeners α := {}

namespace Machine

variable {α : Type}

/-- A machine in the table's first declared state. -/
def new (c : Compiled) : Machine α := ⟨c, c.initialState, {}⟩

/-- A machine in a given state, declared or not. -/
def inState (c : Compiled) (state : String) : Machine α := ⟨c, state, {}⟩

/-- Whether the current state has no rules or is undeclared. -/
def isTerminal (m : Machine α) : Bool := m.table.isTerminal m.state

/-- The handler calls of some notifications, in calling order. -/
def calls (l : Listeners α) (ns : List Notification) : List (α × Notification) :=
  ns.flatMap fun n => (l.handlersFor n).map (·, n)

/-- Feeds one input: the machine after it, the step, and the handler calls. -/
def transition (m : Machine α) (input : String) : Machine α × Step × List (α × Notification) :=
  let step := m.table.dispatch m.state input
  let state := (step.target).getD m.state
  ({ m with state }, step, calls m.listeners step.notifications)

/-- Registers a handler for a notification name. -/
def on (m : Machine α) (name : String) (h : α) : Machine α × ListenerId :=
  let (l, id) := m.listeners.on name h
  ({ m with listeners := l }, id)

/-- Registers a handler for every notification. -/
def onAny (m : Machine α) (h : α) : Machine α × ListenerId :=
  let (l, id) := m.listeners.onAny h
  ({ m with listeners := l }, id)

/-- Removes a handler; tells whether it was registered. -/
def off (m : Machine α) (id : ListenerId) : Machine α × Bool :=
  let (l, removed) := m.listeners.off id
  ({ m with listeners := l }, removed)

/-- The number of handlers registered for a name. -/
def listenerCount (m : Machine α) (name : String) : Nat := m.listeners.count name

/-- The number of handlers, catch-all handlers included. -/
def handlerCount (m : Machine α) : Nat := m.listeners.size

end Machine

end TableMachine
