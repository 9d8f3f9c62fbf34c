/-!
# Terminal styles

Text written to a terminal can carry ANSI styles: a weight or emphasis (bold, dim, italic) and a
foreground colour. `Style.paint` wraps a text in the escape sequence of its style and the reset
sequence, or leaves it as it is when styling is off or the style is plain. The codes of a style
are written in one sequence, emphasis first and colour last (`ESC[1;36m` is bold cyan);
`Style.paintEach` writes one sequence per code instead (`ESC[1mESC[36m`), and
`Style.paintNested` starts the style again after every reset inside the text.
-/

namespace TableMachine.Text

/-- The eight basic terminal colours. -/
inductive Color where
  | black
  | red
  | green
  | yellow
  | blue
  | magenta
  | cyan
  | white
  deriving DecidableEq, Repr

/-- The foreground code of a colour. -/
def Color.code : Color → Nat
  | .black => 30
  | .red => 31
  | .green => 32
  | .yellow => 33
  | .blue => 34
  | .magenta => 35
  | .cyan => 36
  | .white => 37

/-- A terminal style. -/
structure Style where
  bold : Bool := false
  dimmed : Bool := false
  italic : Bool := false
  underline : Bool := false
  color : Option Color := none
  deriving DecidableEq, Repr

namespace Style

/-- The codes of a style, in writing order. -/
def codes (s : Style) : List Nat :=
  (if s.bold then [1] else []) ++ (if s.dimmed then [2] else []) ++ (if s.italic then [3] else []) ++
    (if s.underline then [4] else []) ++ (s.color.map fun c => [c.code]).getD []

/-- The escape character. -/
def escape : String := "\x1b["

/-- A text in a style; unchanged when styling is off or the style is plain. -/
def paint (enabled : Bool) (s : Style) (text : String) : String :=
  if !enabled || s.codes.isEmpty then text
  else escape ++ ";".intercalate (s.codes.map toString) ++ "m" ++ text ++ escape ++ "0m"

/-- A text in a style, one escape sequence per code; unchanged when styling is off or the style
is plain. -/
def paintEach (enabled : Bool) (s : Style) (text : String) : String :=
  if !enabled || s.codes.isEmpty then text
  else String.join (s.codes.map fun c => escape ++ toString c ++ "m") ++ text ++ escape ++ "0m"

/-- A text in a style, written in one escape sequence, where every reset inside the text is
followed by the style again, so that the style holds to the end. -/
def paintNested (enabled : Bool) (s : Style) (text : String) : String :=
  if !enabled || s.codes.isEmpty then text
  else
    let start := escape ++ ";".intercalate (s.codes.map toString) ++ "m"
    let reset := escape ++ "0m"
    start ++ text.replace reset (reset ++ start) ++ reset

/-- A colour alone. -/
def fg (c : Color) : Style := { color := some c }

/-- Bold text. -/
def strong : Style := { bold := true }

/-- Dim text. -/
def dim : Style := { dimmed := true }

/-- Italic text. -/
def slanted : Style := { italic := true }

end Style

end TableMachine.Text
