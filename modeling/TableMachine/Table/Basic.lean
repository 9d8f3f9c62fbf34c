import TableMachine.Json.Value

/-!
# Transition tables

A transition table lists states in order, each with its ordered rules `key -> target`. A key is
written as the table author wrote it; what kind of matcher it is gets decided when the table is
compiled.

Tables are built by `Table.insertState`, which merges:

> re-declaring a state keeps the state's first position, and re-declaring a key within a state
> keeps the key's first position and takes the last target.

So no table built this way declares a state twice or a key twice within a state. `Table.toJson`
writes the canonical form, every state mapped to a list of `{"on", "to"}` objects.
-/

namespace TableMachine

/-- One authored rule: input matching `key` moves to `target`. -/
structure Rule where
  key : String
  target : String
  deriving DecidableEq, Repr, Inhabited

/-- A state and its authored rules, in order. -/
structure StateEntry where
  name : String
  rules : List Rule
  deriving DecidableEq, Repr, Inhabited

/-- A transition table: states in declaration order. -/
structure Table where
  states : List StateEntry := []
  deriving DecidableEq, Repr, Inhabited

namespace Rule

/-- Puts a rule into a rule list: a known key takes the new target in place, a new key goes at
the end. -/
def upsert (key target : String) : List Rule → List Rule
  | [] => [⟨key, target⟩]
  | r :: rs => if r.key = key then ⟨key, target⟩ :: rs else r :: upsert key target rs

/-- Puts several rules into a rule list, in order. -/
def upsertAll (rules : List Rule) (pairs : List (String × String)) : List Rule :=
  pairs.foldl (fun acc (k, t) => upsert k t acc) rules

end Rule

namespace Table

/-- The empty table. -/
def empty : Table := {}

/-- Adds the rules `pairs` to the state `name`, declaring the state at the end if it is new. -/
def insertStateIn (name : String) (pairs : List (String × String)) :
    List StateEntry → List StateEntry
  | [] => [⟨name, Rule.upsertAll [] pairs⟩]
  | e :: es =>
    if e.name = name then ⟨name, Rule.upsertAll e.rules pairs⟩ :: es
    else e :: insertStateIn name pairs es

/-- Adds a state with its rules: the builder step. -/
def insertState (t : Table) (name : String) (pairs : List (String × String)) : Table :=
  ⟨insertStateIn name pairs t.states⟩

/-- Builds a table from declarations in order. -/
def build (decls : List (String × List (String × String))) : Table :=
  decls.foldl (fun t (name, pairs) => t.insertState name pairs) empty

/-- The first declared state. -/
def firstState (t : Table) : Option String := t.states.head?.map (·.name)

/-- The rules of a declared state. -/
def rules? (t : Table) (name : String) : Option (List Rule) :=
  (t.states.find? (·.name = name)).map (·.rules)

/-- The number of declared states. -/
def size (t : Table) : Nat := t.states.length

/-- Whether the table declares no state. -/
def isEmpty (t : Table) : Bool := t.states.isEmpty

/-- The canonical JSON of a rule. -/
def ruleJson (r : Rule) : Json := .obj [("on", .str r.key), ("to", .str r.target)]

/-- The canonical JSON form: each state mapped to its rules as `{"on", "to"}` objects. -/
def toJson (t : Table) : Json :=
  .obj (t.states.map fun e => (e.name, .arr (e.rules.map ruleJson)))

end Table

end TableMachine
