import TableMachine.Compiled.Basic
import TableMachine.Text.Quoted

/-!
# Listings and descriptions of compiled tables

`Compiled.render` lists a compiled table the way dispatch walks it, as an `if / else` chain per
state; state names, literals and targets are quoted (`Text.quote`), while patterns and
notification names are written as they are:

```
# 2 states, initial "locked", checksum 0f794ede
state "locked":
  if input == "coin" -> "unlocked"
      emit update, leavingLocked, enteringUnlocked, goingFromLockedToUnlocked
  else: ignore input
```

Every line ends with a line feed. `Compiled.describe` gives the same facts as a JSON value.
-/

namespace TableMachine

/-- The names of a rule's notifications. -/
def CompiledRule.names (r : CompiledRule) : List String := r.notifications.map (·.name)

namespace Compiled

/-- The lines of one rule; `first` tells whether it is the state's first rule. -/
def ruleLines (first : Bool) (r : CompiledRule) : List String :=
  let keyword := if first then "if" else "else if"
  let target := Text.quote r.target
  let head :=
    match r.matcher with
    | .literal key => "  " ++ keyword ++ " input == " ++ Text.quote key ++ " -> " ++ target
    | .pattern key _ => "  " ++ keyword ++ " " ++ key ++ " matches input -> " ++ target
    | .wildcard _ => "  " ++ (if first then "always" else "else") ++ " -> " ++ target
  [head, "      emit " ++ String.intercalate ", " r.names]

/-- The lines of one state. -/
def stateLines (s : CompiledState) : List String :=
  let name := Text.quote s.name
  let head := "state " ++ name ++ ":"
  if s.isTerminal then
    match s.inFinal with
    | some n => [head, "  terminal: emit " ++ n.name ++ "(" ++ name ++ ")"]
    | none => [head, "  terminal: ignore input"]
  else
    let rules := (s.rules.zipIdx.map fun (r, i) => ruleLines (i = 0) r).flatten
    let tail := if s.rules.any (·.matcher.isWildcard) then [] else ["  else: ignore input"]
    head :: rules ++ tail

/-- The first line of a listing: the number of states, the initial state and the checksum. -/
def header (c : Compiled) : String :=
  let count := c.states.length
  let initial := Text.quote c.initialState
  s!"# {count} states, initial {initial}, checksum {c.checksum}"

/-- The lines of a listing: the header, then the lines of each state in turn. -/
def listing (c : Compiled) : List String := c.header :: c.states.flatMap stateLines

/-- The text listing of a compiled table: its lines, each ended by a line feed. -/
def render (c : Compiled) : String := String.join (c.listing.map (· ++ "\n"))

/-- The description of one rule. -/
def ruleJson (r : CompiledRule) : Json :=
  .obj [("kind", .str r.matcher.kind.name), ("matcher", .str r.matcher.key),
    ("target", .str r.target), ("notifications", Json.ofStrings r.names)]

/-- The description of one state; `in_final` only when the state carries one. -/
def stateJson (s : CompiledState) : Json :=
  .obj ([("state", .str s.name), ("terminal", .bool s.isTerminal),
    ("rules", .arr (s.rules.map ruleJson))] ++
    (s.inFinal.toList.map fun n => ("in_final", Json.str n.name)))

/-- The description of a compiled table. -/
def describe (c : Compiled) : Json :=
  .obj [("initial", .str c.initialState), ("checksum", .str c.checksum),
    ("options", c.options.toJson), ("states", .arr (c.states.map stateJson))]

end Compiled

end TableMachine
