import TableMachine.Text.Style

/-!
# Styled text of the command line

Help screens, usage lines and argument errors are built as pieces of text, each with a role:
a heading, a literal the user types (`--json`), a placeholder (`<TABLE>`), the word `error:`,
a value that was refused or one that would be accepted. On a terminal that takes colours each
role has its style: headings bold and underlined, literals bold, errors bold red, refused values
bold yellow and accepted ones green. Each code of a style is written as its own escape sequence.
-/

namespace TableMachine.Tool

/-- What a piece of text is, which decides its style. -/
inductive Role where
  | plain
  | header
  | literal
  | placeholder
  | error
  | valid
  | invalid
  deriving DecidableEq, Repr

/-- The terminal style of a role. -/
def Role.style : Role → Text.Style
  | .plain | .placeholder => {}
  | .header => { bold := true, underline := true }
  | .literal => { bold := true }
  | .error => { bold := true, color := some .red }
  | .valid => { color := some .green }
  | .invalid => { bold := true, color := some .yellow }

/-- A piece of text with its role. -/
structure Piece where
  role : Role
  text : String
  deriving DecidableEq, Repr

/-- Text made of styled pieces. -/
abbrev Styled := List Piece

namespace Styled

/-- Plain text. -/
def plain (s : String) : Styled := [⟨.plain, s⟩]

/-- Text in one role. -/
def as (r : Role) (s : String) : Styled := [⟨r, s⟩]

/-- The text without styles. -/
def text (s : Styled) : String := String.join (s.map (·.text))

/-- The text, with each piece in its style when `ansi` is on. -/
def render (ansi : Bool) (s : Styled) : String :=
  String.join (s.map fun p => Text.Style.paintEach ansi p.role.style p.text)

/-- Pieces joined with a separator between them. -/
def joinWith (sep : Styled) : List Styled → Styled
  | [] => []
  | [x] => x
  | x :: rest => x ++ sep ++ joinWith sep rest

end Styled

end TableMachine.Tool
