import TableMachine.Table.Basic

/-!
# Tables from JSON values

`Table.ofJson` accepts a non-empty object whose every value (a state's body) is

* an object whose values are all strings (`{"coin": "unlocked"}`), or
* an array whose items are each a two-element array of strings (`["coin", "unlocked"]`) or an
  object with a string `on` and a string `to` (`{"on": "coin", "to": "unlocked"}`; other fields
  are ignored).

The accepted table is what the builder makes of the bodies' pairs, state by state in key order.
Otherwise the answer is the first violation (a `TableFault`), found by going through the states
in key order and, within a state, through its items in order.
-/

namespace TableMachine

/-- The name of a JSON value's kind in messages. -/
def Json.kindName : Json → String
  | .null => "null"
  | .bool _ => "boolean"
  | .num .. => "number"
  | .str _ => "string"
  | .arr _ => "sequence"
  | .obj _ => "mapping"

/-- Why a table is refused: its JSON shape, or an option it cannot be compiled with. -/
inductive TableFault where
  /-- The table is not an object. -/
  | notMapping (kind : String)
  /-- The table declares no state. -/
  | noStates
  /-- A state's body is neither an object nor an array. -/
  | badBody (state kind : String)
  /-- A pair's first element is not a string. -/
  | keyNotString (state kind : String)
  /-- A rule object has no string `on` field. -/
  | noOnField (state : String)
  /-- An item is neither a pair nor an object. -/
  | badItem (state kind : String)
  /-- A target is not a string; a missing `to` counts as `null`. -/
  | targetNotString (state key kind : String)
  /-- The wildcard token to compile with is empty. -/
  | emptyWildcard
  deriving DecidableEq, Repr

/-- The reason text of a shape error. -/
def TableFault.reason : TableFault → String
  | .notMapping k => s!"table must be a mapping of states, found {k}"
  | .noStates => "table must declare at least one state"
  | .badBody s k => s!"state '{s}' must map matchers to target states, found {k}"
  | .keyNotString s k => s!"state '{s}': matcher must be a string, found {k}"
  | .noOnField s => s!"state '{s}': rule object needs a string 'on' field"
  | .badItem s k =>
    s!"state '{s}': rule must be a [matcher, target] pair or \x7bon, to\x7d object, found {k}"
  | .targetNotString s key k =>
    s!"state '{s}': target of matcher '{key}' must be a state identifier, found {k}"
  | .emptyWildcard => "wildcard token must not be empty"

namespace Table

/-- The target of `key` in state `state`. -/
def targetOf (state key : String) : Json → Except TableFault String
  | .str t => .ok t
  | j => .error (.targetNotString state key j.kindName)

/-- One item of an array body. -/
def ruleItem (state : String) : Json → Except TableFault (String × String)
  | .arr [k, t] =>
    match k with
    | .str key => do return (key, ← targetOf state key t)
    | j => .error (.keyNotString state j.kindName)
  | .obj fs =>
    match Json.Fields.get? "on" fs with
    | some (.str key) => do return (key, ← targetOf state key ((Json.Fields.get? "to" fs).getD .null))
    | _ => .error (.noOnField state)
  | j => .error (.badItem state j.kindName)

/-- The pairs of a state's body, in order. -/
def bodyPairs (state : String) : Json → Except TableFault (List (String × String))
  | .obj fs => fs.mapM fun (key, t) => do return (key, ← targetOf state key t)
  | .arr items => items.mapM (ruleItem state)
  | j => .error (.badBody state j.kindName)

/-- Reads every state of an object in order, building the table. -/
def ofFields (t : Table) : List (String × Json) → Except TableFault Table
  | [] => .ok t
  | (state, body) :: rest => do
    let pairs ← bodyPairs state body
    ofFields (t.insertState state pairs) rest

/-- Reads and checks a table from a JSON value. -/
def ofJson : Json → Except TableFault Table
  | .obj [] => .error .noStates
  | .obj fs => ofFields empty fs
  | j => .error (.notMapping j.kindName)

end Table

end TableMachine
