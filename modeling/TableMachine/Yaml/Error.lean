import TableMachine.Text.Quoted

/-!
# YAML errors

A YAML text can be refused by the reader (a malformed stream: `Error.malformed`, with the stage
that noticed it, the problem, where it was noticed, and what was being read) or when its value is
converted (`Error.message`, with the path of keys down to the value and where the value starts).

Places are kept counted from 0, as the reader counts them, and written counted from 1.
-/

namespace TableMachine.Yaml

/-- A place in a YAML text: line and column (in characters) counted from 0, and the byte index. -/
structure Mark where
  index : Nat
  line : Nat
  column : Nat
  deriving DecidableEq, Repr, Inhabited

/-- The text of a place: `line L column C`, or `position I` at the very start. -/
def Mark.text (m : Mark) : String :=
  if m.line ≠ 0 ∨ m.column ≠ 0 then s!"line {m.line + 1} column {m.column + 1}"
  else s!"position {m.index}"

/-- The structured text of a place. -/
def Mark.debugText (m : Mark) : String :=
  if m.line ≠ 0 ∨ m.column ≠ 0 then s!"Mark \x7b line: {m.line + 1}, column: {m.column + 1} \x7d"
  else s!"Mark \x7b index: {m.index} \x7d"

/-- The stage of the reader that refused a text. -/
inductive Stage where
  | reader
  | scanner
  | parser
  | composer
  deriving DecidableEq, Repr

/-- The name of a stage in structured output. -/
def Stage.name : Stage → String
  | .reader => "READER"
  | .scanner => "SCANNER"
  | .parser => "PARSER"
  | .composer => "COMPOSER"

/-- Why a YAML text is refused. -/
inductive Error where
  /-- The stream is malformed. -/
  | malformed (stage : Stage) (problem : String) (mark : Mark) (context : Option (String × Mark))
  /-- A value does not have the expected shape. Once the place is known, it holds the path of keys
  down to the value (`.` for the top) and where the value starts. -/
  | message (text : String) (place : Option (String × Mark))
  /-- A fault of the document at a place (an alias to no anchor, nesting too deep). -/
  | located (text : String) (mark : Mark)
  /-- A fault of the document as a whole. -/
  | plain (text : String)
  deriving DecidableEq, Repr

namespace Error

/-- A message with its path, without the place. -/
def head (text : String) : Option (String × Mark) → String
  | some (path, _) => (if path = "." then "" else path ++ ": ") ++ text
  | none => text

/-- The place that a refusal names, if any. -/
def mark? : Error → Option Mark
  | .malformed _ _ mark _ => some mark
  | .message _ place => place.map (·.2)
  | .located _ mark => some mark
  | .plain _ => none

/-- The text of a refusal. -/
def text : Error → String
  | .malformed _ problem mark context =>
    let context := match context with
      | none => ""
      | some (what, at_) =>
        ", " ++ what ++ (if (at_.line ≠ 0 ∨ at_.column ≠ 0) ∧ (at_.line ≠ mark.line ∨ at_.column ≠ mark.column)
          then " at " ++ at_.text else "")
    let place := if mark.line ≠ 0 ∨ mark.column ≠ 0 ∨ mark.index ≠ 0 then " at " ++ mark.text else ""
    problem ++ place ++ context
  | .message text place =>
    match place with
    | some (_, m) => if m.line ≠ 0 ∨ m.column ≠ 0 then head text place ++ " at " ++ m.text
      else head text place
    | none => text
  | .located text m => if m.line ≠ 0 ∨ m.column ≠ 0 then text ++ " at " ++ m.text else text
  | .plain text => text

/-- The place of a message in structured output: line and column, counted from 1. -/
def placeDebug : Option Mark → String
  | some m => if m.line ≠ 0 ∨ m.column ≠ 0 then s!", line: {m.line + 1}, column: {m.column + 1}" else ""
  | none => ""

/-- The structured form of a refusal, as debugging output shows it. -/
def debugText : Error → String
  | .malformed stage problem mark context =>
    let context := match context with
      | none => ""
      | some (what, at_) =>
        ", context: " ++ Text.quote what ++
          (if at_.line ≠ 0 ∨ at_.column ≠ 0 then ", context_mark: " ++ at_.debugText else "")
    let place :=
      if mark.line ≠ 0 ∨ mark.column ≠ 0 then ", problem_mark: " ++ mark.debugText
      else if mark.index ≠ 0 then s!", problem_offset: {mark.index}"
      else ""
    "Error \x7b kind: " ++ stage.name ++ ", problem: " ++ Text.quote problem ++ place ++ context ++ " \x7d"
  | .message text place => "Error(" ++ Text.quote (head text place) ++ placeDebug (place.map (·.2)) ++ ")"
  | .located text m => "Error(" ++ Text.quote text ++ placeDebug (some m) ++ ")"
  | .plain text => "Error(" ++ Text.quote text ++ ")"

/-- Gives an unplaced message its path and place; other refusals keep theirs. -/
def place (e : Error) (path : String) (m : Mark) : Error :=
  match e with
  | .message text none => .message text (some (path, m))
  | e => e

end Error

end TableMachine.Yaml
