import TableMachine.Log
import TableMachine.Regex.Resolve
import TableMachine.Unicode.Category
import TableMachine.Unicode.Property

/-!
# Log filters

A filter decides which records are written. It is read from a text of directives separated by
commas (`Filter.parse`); empty pieces are skipped, and a text with one directive that cannot be
read is refused as a whole, the program then using its default filter.

A directive is a bare level (`warn`, or a number from `0` for nothing to `5` for traces), or a
target prefix with an optional span part in brackets and an optional `=level`
(`tabfsm=debug`, `tabfsm[run]`, `[{state}]=info`). A target without a level means every
level; so does an empty level after `=`. The span part names a span and lists field conditions
in braces (`[run{state=a}]`), a condition being a field name with an optional value: `true` or
`false`, a number, or a pattern, which must be a valid pattern that tests no word boundary under
Unicode rules.

The reader (`Directive.parse?`) walks the directive with its surrounding white space trimmed,
but cuts its parts out of the untrimmed text at the byte offsets of the trimmed one. White
space in front of a directive therefore shifts every part: `  info` reads as the target
`  info`, and `  tabfsm=debug` as the target `  tabf` with the level `m=debug`, which is no
level. A directive's first character must be a letter, a digit, `-`, `:`, `_` or `[`.

Records are written outside every span, so a directive that names a span (even with empty
brackets) or a field value never lets a record through. The others are rules (`Filter.rules`):
a target prefix, field names that a record must carry, and a level. The rule that decides a
record is, among those that apply to it, the most specific: the longest target (no target is
the least specific), then the most field names, then the greatest target and field names in
text order; of two rules with the same target and field names the later one counts. A record
that no rule applies to is not written.
-/

namespace TableMachine.Log

/-- A field condition of a directive: a field's name and, optionally, the value it must have. -/
structure FieldMatch where
  name : String
  value : Option String := none
  deriving DecidableEq, Repr

/-- One directive of a filter. -/
structure Directive where
  /-- The prefix of the targets it applies to; `none` for every target. -/
  target : Option String := none
  /-- The span it applies inside, if it names one. -/
  span : Option String := none
  /-- Field conditions on the spans it applies inside. -/
  fields : List FieldMatch := []
  /-- The most verbose level written: 0 writes nothing, 5 writes traces. -/
  verbosity : Nat := 5
  deriving DecidableEq, Repr

/-- A filter: its directives, in the order given. -/
structure Filter where
  directives : List Directive := []
  deriving DecidableEq, Repr

/-! ## Reading texts -/

/-- Lower-cases ASCII letters. -/
def lowerAscii (s : String) : String := String.ofList (s.toList.map Char.toLower)

/-- The value of a nonempty run of decimal digits. -/
def decimalValue? (cs : List Char) : Option Nat :=
  if cs.isEmpty || !cs.all Char.isDigit then none
  else some (cs.foldl (fun n c => 10 * n + (c.toNat - '0'.toNat)) 0)

/-- The verbosity a level text names: a number from 0 to 5 (decimal digits, perhaps after `+`),
or `off`, `error`, `warn`, `info`, `debug` or `trace` in any ASCII case; the empty text names
errors. -/
def verbosity? (s : String) : Option Nat :=
  let digits := match s.toList with
    | '+' :: rest => rest
    | cs => cs
  match decimalValue? digits with
  | some n => if n ≤ 5 then some n else none
  | none =>
    match lowerAscii s with
    | "off" => some 0
    | "" | "error" => some 1
    | "warn" => some 2
    | "info" => some 3
    | "debug" => some 4
    | "trace" => some 5
    | _ => none

/-- Drops a leading sign. -/
def unsigned : List Char → List Char
  | '+' :: rest | '-' :: rest => rest
  | cs => cs

/-- Whether characters spell a decimal number: digits with an optional fraction, at least one
digit in all, and an optional exponent of signed digits. -/
def decimalText (cs : List Char) : Bool :=
  let whole := cs.takeWhile Char.isDigit
  let (fraction, rest) := match cs.dropWhile Char.isDigit with
    | '.' :: r => (r.takeWhile Char.isDigit, r.dropWhile Char.isDigit)
    | r => ([], r)
  (!whole.isEmpty || !fraction.isEmpty) &&
    match rest with
    | [] => true
    | e :: power =>
      (e = 'e' || e = 'E') && (decimalValue? (unsigned power)).isSome

/-- Whether a text spells a floating-point number: a sign, then a decimal number, `inf`,
`infinity` or `nan`, the words in any ASCII case. -/
def floatText (s : String) : Bool :=
  let body := unsigned s.toList
  let word := lowerAscii (String.ofList body)
  word = "inf" || word = "infinity" || word = "nan" || decimalText body

/-- Whether a text is a pattern that a field value can be matched against: it is a valid
pattern, and it tests no word boundary under Unicode rules, which a matcher over bytes cannot
decide. -/
def patternValue (s : String) : Bool :=
  match (Regex.parse s).bind (Regex.Ast.resolve {}) with
  | .ok e => !e.anyLook Regex.Look.unicodeWord
  | .error _ => false

/-- Whether a text is a value a field condition can ask for. -/
def valueAccepted (s : String) : Bool :=
  s = "true" || s = "false" || floatText s || patternValue s

/-- Reads a field condition: the name up to the first `=`, and the value up to the next. -/
def FieldMatch.parse? (s : String) : Option FieldMatch :=
  match s.splitOn "=" with
  | name :: value :: _ => if valueAccepted value then some ⟨name, some value⟩ else none
  | name :: [] => some ⟨name, none⟩
  | [] => none

/-! ## Reading directives -/

/-- The characters of a text, each with the byte offset it starts at, counting from `start`. -/
def byteOffsets : List Char → Nat → List (Nat × Char)
  | [], _ => []
  | c :: cs, start => (start, c) :: byteOffsets cs (start + c.utf8Size)

/-- The part of a text from byte `a` up to byte `b` (its end for `none`), if both lie between
characters. -/
def byteSlice (s : String) (a : Nat) (b : Option Nat) : Option String :=
  let cs := byteOffsets s.toList 0
  let stop := b.getD s.utf8ByteSize
  let between (n : Nat) : Bool := n = s.utf8ByteSize || cs.any (·.1 = n)
  if between a && between stop && a ≤ stop then
    some (String.ofList ((cs.filter fun (o, _) => a ≤ o && o < stop).map (·.2)))
  else none

/-- Whether a character is white space. -/
def isSpace (c : Char) : Bool := Unicode.whiteSpace.contains c.toNat

/-- Whether a character is a letter or a digit, in the Unicode sense: alphabetic, or of a
number category. -/
def isAlphanumeric (c : Char) : Bool :=
  Unicode.alphabetic.contains c.toNat ||
    match Unicode.generalCategory c with
    | .decimalNumber | .letterNumber | .otherNumber => true
    | _ => false

/-- Where the reader of a directive stands. -/
inductive Stage where
  /-- Before the first character. -/
  | start
  /-- In a word, a level or a target, that began at a byte. -/
  | word (begin : Nat)
  /-- Inside brackets, in a span name that began at a byte. -/
  | span (begin : Nat)
  /-- Inside braces, in a field condition that began at a byte. -/
  | field (begin : Nat)
  /-- After the closing brace, before the closing bracket. -/
  | fieldsDone
  /-- After the closing bracket. -/
  | spanDone
  /-- In the level after `=`, which began at a byte. -/
  | level (begin : Nat)
  deriving DecidableEq, Repr

/-- One character of a directive, at a byte offset of the trimmed directive; the parts are cut
from the untrimmed `text`. -/
def Directive.step (text : String) (d : Directive) : Stage → Nat × Char → Option (Directive × Stage)
  | .start, (i, c) =>
    if c = '[' then some (d, .span (i + 1))
    else if c = '-' || c = ':' || c = '_' || isAlphanumeric c then some (d, .word i)
    else none
  | .word b, (i, c) =>
    if c = '=' then (byteSlice text b (some i)).map fun t => ({ d with target := some t }, .level (i + 1))
    else if c = '[' then (byteSlice text b (some i)).map fun t => ({ d with target := some t }, .span (i + 1))
    else some (d, .word b)
  | .spanDone, (i, c) => if c = '=' then some (d, .level (i + 1)) else none
  | .span b, (i, c) =>
    if c = ']' then (byteSlice text b (some i)).map fun s => ({ d with span := some s }, .spanDone)
    else if c = '{' then
      (byteSlice text b (some i)).map fun s =>
        ({ d with span := if s.isEmpty then none else some s }, .field (i + 1))
    else some (d, .span b)
  | .field b, (i, c) =>
    if c = '}' then do
      let f ← byteSlice text b (some i)
      if f.isEmpty then none
      let m ← FieldMatch.parse? f
      return ({ d with fields := d.fields ++ [m] }, .fieldsDone)
    else some (d, .field b)
  | .fieldsDone, (_, c) => if c = ']' then some (d, .spanDone) else none
  | .level b, _ => some (d, .level b)

/-- Finishes a directive at the end of the text. -/
def Directive.finish (text : String) (d : Directive) : Stage → Option Directive
  | .word b => do
    let rest ← byteSlice text b none
    if rest.isEmpty then return { d with target := none, verbosity := 5 }
    match verbosity? rest with
    | some v => return { d with target := none, verbosity := v }
    | none => return { d with target := some rest, verbosity := 5 }
  | .level b => do
    let rest ← byteSlice text b none
    if rest.isEmpty then return { d with verbosity := 5 }
    return { d with verbosity := ← verbosity? rest }
  | .spanDone => some d
  | _ => none

/-- Walks the characters of a directive through the reader. -/
def Directive.walk (text : String) : Directive × Stage → List (Nat × Char) → Option (Directive × Stage)
  | st, [] => some st
  | (d, stage), ic :: rest => (d.step text stage ic).bind fun st => Directive.walk text st rest

/-- Reads one directive, which holds no comma. -/
def Directive.parse? (text : String) : Option Directive := do
  let trimmed := (text.toList.dropWhile isSpace).reverse.dropWhile isSpace |>.reverse
  let (d, stage) ← Directive.walk text ({}, .start) (byteOffsets trimmed 0)
  d.finish text stage

/-- Reads a filter text; empty pieces are skipped. -/
def Filter.parse (s : String) : Option Filter :=
  let parts := (s.splitOn ",").filter (· ≠ "")
  (parts.mapM Directive.parse?).map fun ds => ⟨ds⟩

/-- The filter that writes records up to a level everywhere. -/
def Filter.upTo (l : Level) : Filter := ⟨[{ verbosity := l.rank }]⟩

/-! ## Deciding -/

/-- A directive as it acts on records outside spans: a target prefix, the field names a record
must carry, and the most verbose level written. -/
structure Rule where
  target : Option String
  fieldNames : List String
  verbosity : Nat
  deriving DecidableEq, Repr

/-- The rule of a directive that names no span and no field value. -/
def Directive.rule? (d : Directive) : Option Rule :=
  if d.span.isNone && d.fields.all (·.value.isNone) then
    some ⟨d.target, d.fields.map (·.name), d.verbosity⟩
  else none

/-- The rules of a filter: those of the directives without field conditions, then those of the
directives with some. -/
def Filter.rules (f : Filter) : List Rule :=
  let plain := f.directives.filter (·.fields.isEmpty)
  let withFields := f.directives.filter (!·.fields.isEmpty)
  (plain ++ withFields).filterMap Directive.rule?

/-- Compares lists of texts in dictionary order. -/
def compareTexts : List String → List String → Ordering
  | [], [] => .eq
  | [], _ :: _ => .lt
  | _ :: _, [] => .gt
  | a :: as, b :: bs => (compare a b).then (compareTexts as bs)

/-- Compares optional texts, no text first. -/
def compareTarget : Option String → Option String → Ordering
  | none, none => .eq
  | none, some _ => .lt
  | some _, none => .gt
  | some a, some b => compare a b

/-- Compares rules by how specific they are: target length (no target least), the number of
field names, then the targets and the field names in text order. -/
def Rule.compareSpecificity (a b : Rule) : Ordering :=
  (compare (a.target.map (·.utf8ByteSize + 1) |>.getD 0) (b.target.map (·.utf8ByteSize + 1) |>.getD 0)).then <|
  (compare a.fieldNames.length b.fieldNames.length).then <|
  (compareTarget a.target b.target).then (compareTexts a.fieldNames b.fieldNames)

/-- Whether a rule applies to a record: its target starts the record's target, and the record
has every field it names. -/
def Rule.applies (r : Rule) (rec : Record) : Bool :=
  (r.target.all fun t => rec.target.startsWith t) && r.fieldNames.all (rec.fieldNames.contains ·)

/-- The rule that decides a record: the most specific of those that apply, the later one of two
equally specific. -/
def Filter.decisive? (f : Filter) (rec : Record) : Option Rule :=
  f.rules.foldl (fun best r =>
    if !r.applies rec then best
    else match best with
      | some b => if r.compareSpecificity b = .lt then best else some r
      | none => some r) none

/-- Whether a filter writes a record. -/
def Filter.allows (f : Filter) (rec : Record) : Bool :=
  match f.decisive? rec with
  | some r => rec.level.rank ≤ r.verbosity
  | none => false

/-- The records a filter writes, as lines. -/
def Filter.lines (f : Filter) (ansi : Bool) (rs : List Record) : List String :=
  (rs.filter f.allows).map (Record.line ansi)

end TableMachine.Log
