import TableMachine.Regex.Resolve
import TableMachine.Regex.Size
import TableMachine.Regex.Program
import TableMachine.Regex.Report

/-!
# Compiled patterns

`Pattern.compile` reads a pattern, resolves it under the two options a matcher can give
(case-insensitive and multi-line, the same as a leading `(?i)` or `(?m)`), and compiles it;
`Pattern.isMatch` tells whether it matches anywhere in a text.

A refusal (`PatternError`) is a syntax error with its report, or a pattern whose compiled
automata are too large (`Size.fits`).
-/

namespace TableMachine.Regex

/-- Why a pattern cannot be compiled. -/
inductive PatternError where
  /-- The pattern is malformed or uses something unsupported; `report` is its full report. -/
  | malformed (report : String)
  /-- The compiled pattern would exceed the size limit (in bytes). -/
  | tooBig (limit : Nat)
  deriving DecidableEq, Repr

/-- The size limit of compiled patterns, in bytes. -/
def sizeLimit : Nat := 10 * Nat.pow 2 20

/-- The text of a refusal. -/
def PatternError.message : PatternError → String
  | .malformed report => report
  | .tooBig limit => s!"Compiled regex exceeds size limit of {limit} bytes."

/-- The structured form of a refusal, as debugging output shows it: the report between lines
of 79 tildes. -/
def PatternError.debugText : PatternError → String
  | .malformed report =>
    let hr := repeatChar '~' 79
    "Syntax(\n" ++ hr ++ "\n" ++ report ++ "\n" ++ hr ++ "\n)"
  | .tooBig limit => s!"CompiledTooBig({limit})"

/-- A compiled pattern with its source. -/
structure Pattern where
  source : String
  program : Program

namespace Pattern

/-- Compiles `source` with the given options. -/
def compile (source : String) (caseInsensitive multiLine : Bool) : Except PatternError Pattern :=
  let flags : Flags := { caseInsensitive, multiLine }
  match (parse source).bind (Ast.resolve flags) with
  | .error e => .error (.malformed (e.report source))
  | .ok expr =>
    if Size.fits sizeLimit expr then .ok ⟨source, Program.ofExpr expr⟩
    else .error (.tooBig sizeLimit)

/-- Whether the pattern matches somewhere in `text`. -/
def isMatch (p : Pattern) (text : String) : Bool := p.program.search text

end Pattern

end TableMachine.Regex
