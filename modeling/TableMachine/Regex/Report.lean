import TableMachine.Regex.Syntax

/-!
# Reports of refused patterns

`Error.report` writes a refusal the way the matcher's messages show it: a heading, the pattern
with carets under the offending stretch (and under the first occurrence, for a repeated name or
flag), and the reason:

```
regex parse error:
    (
    ^
error: unclosed group
```

A pattern of several lines is framed by lines of 79 tildes, and each of its lines is numbered;
a stretch that crosses a line end is named by its lines and columns instead of carets.
-/

namespace TableMachine.Regex

/-- A place in a pattern: line and column, both counted from 1 in characters. -/
structure Place where
  line : Nat
  column : Nat
  deriving DecidableEq, Repr

/-- The place of a character index of a pattern. -/
def placeOf (pattern : List Char) (offset : Nat) : Place :=
  (pattern.take offset).foldl
    (fun p c => if c = '\n' then ⟨p.line + 1, 1⟩ else ⟨p.line, p.column + 1⟩) ⟨1, 1⟩

/-- The lines of a pattern: split at line ends, a carriage return before one dropped, and no
last empty line. -/
def patternLines (pattern : String) : List String :=
  let parts := pattern.splitOn "\n"
  let trimmed := parts.dropLast.map (fun l =>
    if l.endsWith "\r" then String.ofList l.toList.dropLast else l) ++ parts.getLast?.toList
  if pattern.endsWith "\n" || pattern.isEmpty then trimmed.dropLast else trimmed

/-- A line of `n` copies of `c`. -/
def repeatChar (c : Char) (n : Nat) : String := String.ofList (List.replicate n c)

/-- The caret line under one pattern line, for stretches that start and end on it. -/
def caretLine (pad : Nat) (spans : List (Place × Place)) : String :=
  let (text, _) := spans.foldl (fun (acc : String × Nat) (a, b) =>
    let (text, pos) := acc
    let gap := a.column - 1 - pos
    let width := max 1 (b.column - a.column)
    (text ++ repeatChar ' ' gap ++ repeatChar '^' width, pos + gap + width)) ("", 0)
  repeatChar ' ' pad ++ text

/-- The pattern with caret lines under the lines that hold a stretch. -/
def notate (lines : List String) (numberWidth : Nat) (spans : List (Place × Place)) : String :=
  let pad := if numberWidth = 0 then 4 else 2 + numberWidth
  String.join <| (lines.zipIdx 1).map fun (line, n) =>
    let number := toString n
    let head :=
      if numberWidth = 0 then "    "
      else repeatChar ' ' (numberWidth - number.length) ++ number ++ ": "
    let here := spans.filter fun (a, _) => a.line = n
    head ++ line ++ "\n" ++ (if here.isEmpty then "" else caretLine pad here ++ "\n")

/-- The report of a refusal of `pattern`. -/
def Error.report (e : Error) (pattern : String) : String :=
  let cs := pattern.toList
  let place := fun (s : Span) => (placeOf cs s.start, placeOf cs s.stop)
  let all := (e.span :: e.aux.toList).map place
  let sorted := all.mergeSort fun x y => x.1.line < y.1.line ∨
    (x.1.line = y.1.line ∧ x.1.column ≤ y.1.column)
  let single := sorted.filter fun (a, b) => a.line = b.line
  let multi := sorted.filter fun (a, b) => a.line ≠ b.line
  let lines := patternLines pattern
  let lineCount := lines.length + (if pattern.endsWith "\n" then 1 else 0)
  let numberWidth := if lineCount ≤ 1 then 0 else (toString lineCount).length
  let reason := "error: " ++ e.kind.message
  if cs.contains '\n' then
    let divider := repeatChar '~' 79
    let notes := multi.map fun (a, b) =>
      s!"on line {a.line} (column {a.column}) through line {b.line} (column {b.column - 1})"
    "regex parse error:\n" ++ divider ++ "\n" ++ notate lines numberWidth single ++ divider ++ "\n" ++
      (if notes.isEmpty then "" else String.intercalate "\n" notes ++ "\n") ++ reason
  else
    "regex parse error:\n" ++ notate lines numberWidth single ++ reason

end TableMachine.Regex
