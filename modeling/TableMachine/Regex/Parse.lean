import TableMachine.Regex.Nesting
import TableMachine.Unicode.Category
import TableMachine.Unicode.Property

/-!
# Reading patterns

`Regex.parse` turns a pattern into its syntax tree, or names the first thing wrong with it
together with where it is. The reader walks the pattern once from left to right, keeping a stack
of open groups (and alternations inside them) and, inside brackets, a stack of open classes and
pending class operations, so that the refusal it reports is the one met first:

* a repetition operator with nothing before it, a `)` with no open group, and an unclosed group
  or class at the end;
* escapes: back-references (`\1`), unknown letters, bad hexadecimal escapes, `\p` classes;
* flag groups: unknown, repeated or dangling flags; named groups with bad or repeated names;
* counted repetitions `{n}`, `{n,}`, `{n,m}` that are unclosed, empty or run backwards;
* look-around groups.

With the `x` flag on, blanks and `#` comments between tokens are skipped.

Every loop of the reader takes at least one character per round, and is given the pattern's
length as its bound.
-/

namespace TableMachine.Regex

/-- An open group, with the concatenation it interrupts and where that concatenation began. -/
structure GroupFrame where
  outer : List Ast
  outerStart : Nat
  kind : GroupKind
  ignoreWs : Bool
  span : Span

/-- What the group stack holds: an open group, or the finished branches of an alternation and
where its first branch began. -/
inductive GroupState where
  | group (frame : GroupFrame)
  | alternation (branches : List Ast) (start : Nat)

/-- Binary operations inside brackets. -/
inductive ClassOp where
  | intersection
  | difference
  | symmetricDifference

/-- What the class stack holds: an opened bracket with the union it interrupts, or an operation
waiting for its right side. -/
inductive ClassState where
  | opened (outer : List ClassItem) (negated : Bool) (span : Span)
  | op (kind : ClassOp) (lhs : ClassSet)

/-- The reader's state. -/
structure ReaderState where
  chars : Array Char
  pos : Nat := 0
  ignoreWs : Bool := false
  /-- Where the concatenation being read began. -/
  concatStart : Nat := 0
  /-- The number of capturing groups opened so far. -/
  captures : Nat := 0
  names : List (String × Span) := []
  groups : List GroupState := []
  classes : List ClassState := []

/-- The reader: state and the possibility of refusal. -/
abbrev Reader := StateT ReaderState (Except Error)

namespace Reader

/-- Refuses with a reason and a span. -/
def fail {α : Type} (kind : ErrorKind) (span : Span) (aux : Option Span := none) : Reader α :=
  throw { kind, span, aux }

/-- The current position. -/
def pos : Reader Nat := do return (← get).pos

/-- Whether the whole pattern has been read. -/
def isEof : Reader Bool := do
  let s ← get
  return s.chars.size ≤ s.pos

/-- The character at the position (NUL past the end). -/
def char : Reader Char := do
  let s ← get
  return s.chars.getD s.pos '\x00'

/-- The character after the current one. -/
def peek : Reader (Option Char) := do
  let s ← get
  return s.chars[s.pos + 1]?

/-- An empty span at the position. -/
def here : Reader Span := do
  let p ← pos
  return ⟨p, p⟩

/-- The span of the current character. -/
def charSpan : Reader Span := do
  let p ← pos
  let eof ← isEof
  return ⟨p, if eof then p else p + 1⟩

/-- Moves past the current character; tells whether another one follows. -/
def bump : Reader Bool := do
  let s ← get
  if s.pos < s.chars.size then set { s with pos := s.pos + 1 }
  let s ← get
  return s.pos < s.chars.size

/-- Whether the text at the position starts with `word`; if so, moves past it. -/
def bumpIf (word : String) : Reader Bool := do
  let s ← get
  let w := word.toList
  if (s.chars.toList.drop s.pos).take w.length = w then
    set { s with pos := s.pos + w.length }
    return true
  else return false

/-- Whether a character is white space in the Unicode sense, as the `x` flag and the counts of
a repetition skip it. -/
def isBlank (c : Char) : Bool := TableMachine.Unicode.whiteSpace.contains c.toNat

/-- The index of the first character at or after `i` that is not skipped under the `x` flag. -/
def skipFrom (chars : Array Char) : Nat → Nat → Bool → Nat
  | 0, i, _ => i
  | fuel + 1, i, inComment =>
    match chars[i]? with
    | none => i
    | some c =>
      if inComment then skipFrom chars fuel (i + 1) (c ≠ '\n')
      else if isBlank c then skipFrom chars fuel (i + 1) false
      else if c = '#' then skipFrom chars fuel (i + 1) true
      else i

/-- Skips blanks and comments when the `x` flag is on. -/
def bumpSpace : Reader Unit := do
  let s ← get
  if s.ignoreWs then set { s with pos := skipFrom s.chars s.chars.size s.pos false }

/-- Moves past the current character and any blanks after it; tells whether a character is left. -/
def bumpAndBumpSpace : Reader Bool := do
  if !(← bump) then return false
  bumpSpace
  return !(← isEof)

/-- The next character after the current one, blanks skipped under the `x` flag. -/
def peekSpace : Reader (Option Char) := do
  let s ← get
  if !s.ignoreWs then peek
  else if s.chars.size ≤ s.pos then return none
  else return s.chars[skipFrom s.chars s.chars.size (s.pos + 1) false]?

/-- Raises a refusal read earlier, or gives the value. -/
def settle {α : Type} : Except Error α → Reader α
  | .ok a => pure a
  | .error e => throw e

/-- The remaining length, the bound of every loop. -/
def fuel : Reader Nat := do
  let s ← get
  return s.chars.size - s.pos + 1

end Reader

open Reader

/-- A concatenation as one tree: nothing is an empty tree over the concatenation's span, one
item is that item. -/
def concatAst (items : List Ast) (span : Span) : Ast :=
  match items with
  | [] => .empty span
  | [a] => a
  | as => .concat as span

/-! ## Escapes -/

/-- Characters that mean something in patterns. -/
def isMeta (c : Char) : Bool := "\\.+*?()|[]{}^$#&-~".toList.contains c

/-- Characters that may be escaped to stand for themselves. -/
def isEscapeable (c : Char) : Bool :=
  isMeta c || (c.toNat < 0x80 && !c.isAlphanum && c ≠ '<' && c ≠ '>')

/-- The value of a hexadecimal digit. -/
def hexValue? (c : Char) : Option Nat :=
  if '0' ≤ c ∧ c ≤ '9' then some (c.toNat - 48)
  else if 'a' ≤ c ∧ c ≤ 'f' then some (c.toNat - 87)
  else if 'A' ≤ c ∧ c ≤ 'F' then some (c.toNat - 55)
  else none

/-- The character of a hexadecimal code, if it is a Unicode scalar value. -/
def scalar? (digits : List Char) : Option Char :=
  let n := digits.foldl (fun n d => n * 16 + (hexValue? d).getD 0) 0
  if n ≤ 0x10FFFF ∧ ¬(0xD800 ≤ n ∧ n ≤ 0xDFFF) then some (Char.ofNat n) else none

/-- Reads exactly `count` hexadecimal digits (for `\xNN`, `\uNNNN`, `\UNNNNNNNN`). -/
def hexFixed (count : Nat) (isByte : Bool) (escStart : Nat) : Reader Literal := do
  let start ← pos
  let mut digits : List Char := []
  for i in List.range count do
    if 0 < i then
      if !(← bumpAndBumpSpace) then fail .escapeUnexpectedEof (← here)
    let c ← char
    if (hexValue? c).isNone then fail .escapeHexInvalidDigit (← charSpan)
    digits := digits ++ [c]
  let _ ← bumpAndBumpSpace
  let stop ← pos
  match scalar? digits with
  | some c => return ⟨c, isByte, ⟨escStart, stop⟩⟩
  | none => fail .escapeHexInvalid ⟨start, stop⟩

/-- Reads hexadecimal digits between braces (`\x{…}`); these always name a character. -/
def hexBrace (escStart : Nat) : Reader Literal := do
  let bracePos ← pos
  let start := bracePos + 1
  let mut digits : List Char := []
  for _ in List.range (← fuel) do
    if !(← bumpAndBumpSpace) then break
    let c ← char
    if c = '}' then break
    if (hexValue? c).isNone then fail .escapeHexInvalidDigit (← charSpan)
    digits := digits ++ [c]
  if ← isEof then fail .escapeUnexpectedEof ⟨bracePos, ← pos⟩
  let stop ← pos
  let _ ← bumpAndBumpSpace
  if digits.isEmpty then fail .escapeHexEmpty ⟨bracePos, ← pos⟩
  match scalar? digits with
  | some c => return ⟨c, false, ⟨escStart, ← pos⟩⟩
  | none => fail .escapeHexInvalid ⟨start, stop⟩

/-- Reads `\p` or `\P` after the backslash, the letter being current. -/
def unicodeClass (escStart : Nat) : Reader Ast := do
  let negated := (← char) = 'P'
  if !(← bumpAndBumpSpace) then fail .escapeUnexpectedEof (← here)
  if (← char) = '{' then
    let mut name : List Char := []
    for _ in List.range (← fuel) do
      if !(← bumpAndBumpSpace) then break
      let c ← char
      if c = '}' then break
      name := name ++ [c]
    if ← isEof then fail .escapeUnexpectedEof (← here)
    let _ ← bump
    let text := String.ofList name
    let query :=
      match text.splitOn "!=" with
      | n :: v :: rest => UnicodeQuery.valued n (String.intercalate "!=" (v :: rest)) true
      | _ =>
        match text.splitOn ":" with
        | n :: v :: rest => UnicodeQuery.valued n (String.intercalate ":" (v :: rest)) false
        | _ =>
          match text.splitOn "=" with
          | n :: v :: rest => UnicodeQuery.valued n (String.intercalate "=" (v :: rest)) false
          | _ => UnicodeQuery.named text
    return .unicode query negated ⟨escStart, ← pos⟩
  else
    let c ← char
    if c = '\\' then fail .unicodeClassInvalid (← charSpan)
    let _ ← bumpAndBumpSpace
    return .unicode (.oneLetter c) negated ⟨escStart, ← pos⟩

/-- Reads `\b{start}` and the other special word boundaries, the brace being current; `none`
puts the reader back at the brace. -/
def specialWordBoundary (wbStart : Nat) : Reader (Option Assertion) := do
  let valid := fun (c : Char) => ('A' ≤ c ∧ c ≤ 'Z') ∨ ('a' ≤ c ∧ c ≤ 'z') ∨ c = '-'
  let start ← pos
  if !(← bumpAndBumpSpace) then fail .specialWordOrRepetitionUnexpectedEof ⟨wbStart, ← pos⟩
  let contentStart ← pos
  if !valid (← char) then
    modify fun s => { s with pos := start }
    return none
  let mut word : List Char := []
  for _ in List.range (← fuel) do
    if ← isEof then break
    let c ← char
    if !valid c then break
    word := word ++ [c]
    let _ ← bumpAndBumpSpace
  if (← isEof) || (← char) ≠ '}' then fail .specialWordBoundaryUnclosed ⟨start, ← pos⟩
  let stop ← pos
  let _ ← bump
  match String.ofList word with
  | "start" => return some .wordStart
  | "end" => return some .wordEnd
  | "start-half" => return some .wordStartHalf
  | "end-half" => return some .wordEndHalf
  | _ => fail .specialWordBoundaryUnrecognized ⟨contentStart, stop⟩

/-- Reads an escape, the backslash being current. -/
def escape : Reader Ast := do
  let start ← pos
  if !(← bump) then fail .escapeUnexpectedEof ⟨start, ← pos⟩
  let c ← char
  if '0' ≤ c ∧ c ≤ '9' then fail .unsupportedBackreference ⟨start, (← pos) + 1⟩
  if c = 'x' ∨ c = 'u' ∨ c = 'U' then
    let count := if c = 'x' then 2 else if c = 'u' then 4 else 8
    if !(← bumpAndBumpSpace) then fail .escapeUnexpectedEof (← here)
    let lit ← if (← char) = '{' then hexBrace start else hexFixed count (c = 'x') start
    return .literal lit
  if c = 'p' ∨ c = 'P' then return ← unicodeClass start
  if c = 'd' ∨ c = 's' ∨ c = 'w' ∨ c = 'D' ∨ c = 'S' ∨ c = 'W' then
    let _ ← bump
    let cls := if c = 'd' ∨ c = 'D' then PerlClass.digit
      else if c = 's' ∨ c = 'S' then .space else .word
    return .perl cls (c = 'D' ∨ c = 'S' ∨ c = 'W') ⟨start, ← pos⟩
  let _ ← bump
  let span : Span := ⟨start, ← pos⟩
  if isEscapeable c then return .literal ⟨c, false, span⟩
  let special := fun (x : Char) => (pure (.literal ⟨x, false, span⟩) : Reader Ast)
  match c with
  | 'a' => special '\x07'
  | 'f' => special '\x0c'
  | 't' => special '\t'
  | 'n' => special '\n'
  | 'r' => special '\r'
  | 'v' => special '\x0b'
  | 'A' => return .assertion .startText span
  | 'z' => return .assertion .endText span
  | 'B' => return .assertion .notWordBoundary span
  | '<' => return .assertion .wordStart span
  | '>' => return .assertion .wordEnd span
  | 'b' =>
    if !(← isEof) && (← char) = '{' then
      match ← specialWordBoundary start with
      | some a => return .assertion a ⟨start, ← pos⟩
      | none => return .assertion .wordBoundary span
    else return .assertion .wordBoundary span
  | _ => fail .escapeUnrecognized span

/-! ## Classes in brackets -/

/-- The syntax of one class item, before it is known to be a range end. -/
def classPrimitive : Reader Ast := do
  if (← char) = '\\' then escape
  else
    let c ← char
    let span ← charSpan
    let _ ← bump
    return .literal ⟨c, false, span⟩

/-- The span a primitive covers, for messages. -/
def primitiveSpan (start stop : Nat) : Ast → Span
  | .literal lit => lit.span
  | _ => ⟨start, stop⟩

/-- A primitive as a class item. -/
def asClassItem (start stop : Nat) : Ast → Reader ClassItem
  | .literal lit => return .literal lit
  | .perl cls negated span => return .perl cls negated span
  | .unicode q negated span => return .unicode q negated span
  | _ => fail .classEscapeInvalid ⟨start, stop⟩

/-- A primitive as a range end. -/
def asRangeEnd (start stop : Nat) : Ast → Reader Literal
  | .literal lit => return lit
  | _ => fail .classRangeLiteral ⟨start, stop⟩

/-- The refusal of an unclosed class: it points at the innermost open bracket. -/
def unclosedClass {α : Type} : Reader α := do
  let s ← get
  let span := s.classes.findSome? fun
    | .opened _ _ span => some span
    | .op .. => none
  fail .classUnclosed (span.getD ⟨0, 0⟩)

/-- Reads a class item or a range. -/
def classRange : Reader ClassItem := do
  let start1 ← pos
  let prim1 ← classPrimitive
  let stop1 ← pos
  bumpSpace
  if ← isEof then unclosedClass
  let next ← peekSpace
  if (← char) ≠ '-' || next = some ']' || next = some '-' then
    return ← asClassItem start1 stop1 prim1
  if !(← bumpAndBumpSpace) then unclosedClass
  let start2 ← pos
  let prim2 ← classPrimitive
  let stop2 ← pos
  let lo ← asRangeEnd start1 stop1 prim1
  let hi ← asRangeEnd start2 stop2 prim2
  let span : Span := ⟨(primitiveSpan start1 stop1 prim1).start, (primitiveSpan start2 stop2 prim2).stop⟩
  if hi.c < lo.c then fail .classRangeInvalid span
  return .range lo hi

/-- Tries to read `[:name:]` or `[:^name:]`; on failure the reader is put back at the bracket. -/
def asciiClassItem : Reader (Option ClassItem) := do
  let start ← pos
  let back : Reader (Option ClassItem) := do
    modify fun s => { s with pos := start }
    return none
  if !(← bump) || (← char) ≠ ':' then return ← back
  if !(← bump) then return ← back
  let mut negated := false
  if (← char) = '^' then
    negated := true
    if !(← bump) then return ← back
  let nameStart ← pos
  for _ in List.range (← fuel) do
    if (← char) = ':' then break
    if !(← bump) then break
  if ← isEof then return ← back
  let s ← get
  let name := String.ofList ((s.chars.toList.drop nameStart).take (s.pos - nameStart))
  if !(← bumpIf ":]") then return ← back
  match asciiClass? name with
  | some _ => return some (.ascii name negated ⟨start, ← pos⟩)
  | none => back

/-- Opens a bracket, the `[` being current: reads `^`, leading `-` and a leading `]`, and pushes
the bracket with the union it interrupts. Returns the new union. -/
def openClass (outer : List ClassItem) : Reader (List ClassItem) := do
  let start ← pos
  if !(← bumpAndBumpSpace) then fail .classUnclosed ⟨start, ← pos⟩
  let mut negated := false
  if (← char) = '^' then
    negated := true
    if !(← bumpAndBumpSpace) then fail .classUnclosed ⟨start, ← pos⟩
  let mut items : List ClassItem := []
  for _ in List.range (← fuel) do
    if (← char) ≠ '-' then break
    items := items ++ [.literal ⟨'-', false, ← charSpan⟩]
    if !(← bumpAndBumpSpace) then fail .classUnclosed ⟨start, start⟩
  if items.isEmpty && (← char) = ']' then
    items := [.literal ⟨']', false, ← charSpan⟩]
    if !(← bumpAndBumpSpace) then fail .classUnclosed ⟨start, ← pos⟩
  let span : Span := ⟨start, ← pos⟩
  modify fun s => { s with classes := .opened outer negated span :: s.classes }
  return items

/-- A union of class items, spanning from the first item to the last; an empty union sits at
`at_`. -/
def unionOf (items : List ClassItem) (at_ : Nat) : ClassSet :=
  match items.head?, items.getLast? with
  | some first, some last => .union items ⟨first.span.start, last.span.stop⟩
  | _, _ => .union items ⟨at_, at_⟩

/-- Combines a finished right side with a pending operation, if one is on top. -/
def popClassOp (rhs : ClassSet) : Reader ClassSet := do
  let s ← get
  match s.classes with
  | .op kind lhs :: rest =>
    set { s with classes := rest }
    let span : Span := ⟨lhs.span.start, rhs.span.stop⟩
    return match kind with
      | .intersection => .intersection lhs rhs span
      | .difference => .difference lhs rhs span
      | .symmetricDifference => .symmetricDifference lhs rhs span
  | _ => return rhs

/-- Starts a class operation after its left side `union`. -/
def pushClassOp (kind : ClassOp) (union : List ClassItem) : Reader (List ClassItem) := do
  let lhs ← popClassOp (unionOf union (← pos))
  modify fun s => { s with classes := .op kind lhs :: s.classes }
  return []

/-- Closes a bracket, the `]` being current: either the union continues outside, or the
outermost class is complete. -/
def closeClass (union : List ClassItem) : Reader (Sum (List ClassItem) Ast) := do
  let cls ← popClassOp (unionOf union (← pos))
  let s ← get
  match s.classes with
  | .opened outer negated span :: rest =>
    set { s with classes := rest }
    let _ ← bump
    let span := { span with stop := ← pos }
    if rest.isEmpty then return .inr (.bracketed negated cls span)
    else return .inl (outer ++ [.bracketed negated cls span])
  | _ => unclosedClass

/-- Reads a whole bracketed class, the `[` being current. -/
def bracketClass : Reader Ast := do
  let mut union : List ClassItem := []
  for _ in List.range (← fuel) do
    bumpSpace
    if ← isEof then unclosedClass
    let c ← char
    if c = '[' then
      if !(← get).classes.isEmpty then
        match ← asciiClassItem with
        | some item =>
          union := union ++ [item]
          continue
        | none => pure ()
      union ← openClass union
    else if c = ']' then
      match ← closeClass union with
      | .inl u => union := u
      | .inr ast => return ast
    else if c = '&' ∧ (← peek) = some '&' then
      let _ ← bumpIf "&&"
      union ← pushClassOp .intersection union
    else if c = '-' ∧ (← peek) = some '-' then
      let _ ← bumpIf "--"
      union ← pushClassOp .difference union
    else if c = '~' ∧ (← peek) = some '~' then
      let _ ← bumpIf "~~"
      union ← pushClassOp .symmetricDifference union
    else
      union := union ++ [← classRange]
  unclosedClass

/-! ## Groups and flags -/

/-- Reads flag letters up to `:` or `)`. -/
def flagItems : Reader (List FlagItem) := do
  let mut items : List (FlagItem × Span) := []
  let mut lastNegation : Option Span := none
  for _ in List.range (← fuel) do
    let c ← char
    if c = ':' ∨ c = ')' then break
    let span ← charSpan
    let item ← if c = '-' then pure FlagItem.negation else
      match c with
      | 'i' => pure (FlagItem.flag .caseInsensitive)
      | 'm' => pure (FlagItem.flag .multiLine)
      | 's' => pure (FlagItem.flag .dotMatchesNewLine)
      | 'U' => pure (FlagItem.flag .swapGreed)
      | 'u' => pure (FlagItem.flag .unicode)
      | 'R' => pure (FlagItem.flag .crlf)
      | 'x' => pure (FlagItem.flag .ignoreWhitespace)
      | _ => fail .flagUnrecognized span
    lastNegation := if c = '-' then some span else none
    match items.find? (·.1 = item) with
    | some (_, earlier) =>
      if c = '-' then fail .flagRepeatedNegation span (some earlier)
      else fail .flagDuplicate span (some earlier)
    | none => items := items ++ [(item, span)]
    if !(← bump) then fail .flagUnexpectedEof (← here)
  if let some span := lastNegation then fail .flagDanglingNegation span
  return items.map (·.1)

/-- The `x` flag's state after a flag list, if the list mentions it. -/
def wsFlag (items : List FlagItem) : Option Bool :=
  (items.foldl (fun (st : Bool × Option Bool) item =>
    match item with
    | .negation => (false, st.2)
    | .flag .ignoreWhitespace => (st.1, some st.1)
    | .flag _ => st) (true, none)).2

/-- Whether a character may appear in a group name. -/
def nameChar (c : Char) (first : Bool) : Bool :=
  let alpha := TableMachine.Unicode.alphabetic.contains c.toNat
  if first then c = '_' || alpha
  else
    c = '_' || c = '.' || c = '[' || c = ']' || alpha ||
      match TableMachine.Unicode.generalCategory c with
      | .decimalNumber | .letterNumber | .otherNumber => true
      | _ => false

/-- Reads a group name up to `>`. -/
def groupName : Reader String := do
  if ← isEof then fail .groupNameUnexpectedEof (← here)
  let start ← pos
  for _ in List.range (← fuel) do
    let c ← char
    if c = '>' then break
    if !nameChar c ((← pos) = start) then fail .groupNameInvalid (← charSpan)
    if !(← bump) then break
  let stop ← pos
  if ← isEof then fail .groupNameUnexpectedEof (← here)
  let _ ← bump
  let s ← get
  let name := String.ofList ((s.chars.toList.drop start).take (stop - start))
  if name.isEmpty then fail .groupNameEmpty ⟨start, start⟩
  let span : Span := ⟨start, stop⟩
  match s.names.find? (·.1 = name) with
  | some (_, earlier) => fail .groupNameDuplicate span (some earlier)
  | none => set { s with names := s.names ++ [(name, span)] }
  return name

/-- Opens a group, the `(` being current. A bare flag group `(?i)` is pushed onto `concat` at
once; any other group is pushed onto the group stack and reading continues inside it, in a new
concatenation that begins after the group's opening. Capturing groups, named or not, are
numbered as they open. -/
def openGroup (concat : List Ast) : Reader (List Ast) := do
  let openSpan ← charSpan
  let _ ← bump
  bumpSpace
  if (← bumpIf "?=") || (← bumpIf "?!") || (← bumpIf "?<=") || (← bumpIf "?<!") then
    fail .unsupportedLookAround ⟨openSpan.start, ← pos⟩
  let innerStart ← pos
  let push := fun (kind : GroupKind) => do
    let s ← get
    let flagged := match kind with
      | .nonCapturing flags => wsFlag flags
      | .capture .. => none
    set { s with
      groups := .group ⟨concat, s.concatStart, kind, s.ignoreWs, openSpan⟩ :: s.groups
      ignoreWs := flagged.getD s.ignoreWs
      concatStart := s.pos }
    return ([] : List Ast)
  let nextCapture : Reader Nat := do
    modify fun s => { s with captures := s.captures + 1 }
    return (← get).captures
  if (← bumpIf "?P<") || (← bumpIf "?<") then
    let index ← nextCapture
    let name ← groupName
    push (.capture index (some name))
  else if ← bumpIf "?" then
    if ← isEof then fail .groupUnclosed openSpan
    let items ← flagItems
    let closing ← char
    let _ ← bump
    if closing = ')' then
      if items.isEmpty then fail .repetitionMissing ⟨innerStart, innerStart⟩
      match wsFlag items with
      | some b => modify fun s => { s with ignoreWs := b }
      | none => pure ()
      return concat ++ [.flags items ⟨openSpan.start, ← pos⟩]
    else push (.nonCapturing items)
  else
    let index ← nextCapture
    push (.capture index none)

/-- Closes a group, the `)` being current: the concatenation inside ends before the `)`, and
reading goes on in the concatenation the group interrupted. -/
def closeGroup (inner : List Ast) : Reader (List Ast) := do
  let s ← get
  let (frame, alts, rest) ← match s.groups with
    | .group f :: rest => pure (f, none, rest)
    | .alternation alts start :: .group f :: rest => pure (f, some (alts, start), rest)
    | _ => fail .groupUnopened (← charSpan)
  set { s with groups := rest, ignoreWs := frame.ignoreWs, concatStart := frame.outerStart }
  let _ ← bump
  let last := concatAst inner ⟨s.concatStart, s.pos⟩
  let body := match alts with
    | some (alts, start) => .alternation (alts ++ [last]) ⟨start, s.pos⟩
    | none => last
  return frame.outer ++ [.group frame.kind body ⟨frame.span.start, ← pos⟩]

/-- Ends the current alternative, the `|` being current; the next one begins after it. -/
def alternate (concat : List Ast) : Reader (List Ast) := do
  let s ← get
  let branch := concatAst concat ⟨s.concatStart, s.pos⟩
  match s.groups with
  | .alternation alts start :: rest =>
    set { s with groups := .alternation (alts ++ [branch]) start :: rest }
  | gs => set { s with groups := .alternation [branch] s.concatStart :: gs }
  let _ ← bump
  modify fun s => { s with concatStart := s.pos }
  return []

/-! ## Repetitions -/

/-- Takes the item a repetition applies to. -/
def repeatTarget (concat : List Ast) (opSpan : Span) : Reader (List Ast × Ast) :=
  match concat.getLast? with
  | none | some (.empty _) | some (.flags _ _) => fail .repetitionMissing opSpan
  | some a => return (concat.dropLast, a)

/-- Applies `?`, `*` or `+`, the operator being current. -/
def uncounted (concat : List Ast) (min : Nat) (max : Option Nat) : Reader (List Ast) := do
  let (rest, target) ← repeatTarget concat (← here)
  if (← bump) && (← char) = '?' then let _ ← bump
  return rest ++ [.repetition target min max ⟨target.span.start, ← pos⟩]

/-- Reads a decimal count, blanks around it allowed; a count that is missing or does not fit in
32 bits is given back as its refusal, for the caller to raise when its turn comes. -/
def decimal : Reader (Except Error Nat) := do
  for _ in List.range (← fuel) do
    if (← isEof) || !isBlank (← char) then break
    let _ ← bump
  let start ← pos
  let mut digits : List Char := []
  for _ in List.range (← fuel) do
    if ← isEof then break
    let c ← char
    if !c.isDigit then break
    digits := digits ++ [c]
    let _ ← bumpAndBumpSpace
  let span : Span := ⟨start, ← pos⟩
  for _ in List.range (← fuel) do
    if (← isEof) || !isBlank (← char) then break
    let _ ← bumpAndBumpSpace
  if digits.isEmpty then return .error { kind := .repetitionCountDecimalEmpty, span }
  let n := digits.foldl (fun n d => n * 10 + (d.toNat - 48)) (0 : Nat)
  if n ≥ Nat.pow 2 32 then return .error { kind := .decimalInvalid, span }
  return .ok n

/-- Applies `{n}`, `{n,}` or `{n,m}`, the brace being current. An unclosed brace is reported
before a bad first count, which is only raised once the form of the repetition is known; a bad
second count is raised at once. -/
def counted (concat : List Ast) : Reader (List Ast) := do
  let start ← pos
  let (rest, target) ← repeatTarget concat (← here)
  if !(← bumpAndBumpSpace) then fail .repetitionCountUnclosed ⟨start, ← pos⟩
  let first ← decimal
  if ← isEof then fail .repetitionCountUnclosed ⟨start, ← pos⟩
  let (lo, hi) ← do
    if (← char) = ',' then
      if !(← bumpAndBumpSpace) then fail .repetitionCountUnclosed ⟨start, ← pos⟩
      if (← char) ≠ '}' then
        let lo ← settle first
        let hi ← settle (← decimal)
        pure (lo, some hi)
      else pure (← settle first, none)
    else
      let lo ← settle first
      pure (lo, some lo)
  if (← isEof) || (← char) ≠ '}' then fail .repetitionCountUnclosed ⟨start, ← pos⟩
  if (← bumpAndBumpSpace) && (← char) = '?' then let _ ← bump
  let opSpan : Span := ⟨start, ← pos⟩
  if let some h := hi then
    if h < lo then fail .repetitionCountInvalid opSpan
  return rest ++ [.repetition target lo hi ⟨target.span.start, opSpan.stop⟩]

/-! ## The whole pattern -/

/-- Reads one token and adds it to the current concatenation. -/
def token (concat : List Ast) : Reader (List Ast) := do
  match ← char with
  | '(' => openGroup concat
  | ')' => closeGroup concat
  | '|' => alternate concat
  | '[' => return concat ++ [← bracketClass]
  | '?' => uncounted concat 0 (some 1)
  | '*' => uncounted concat 0 none
  | '+' => uncounted concat 1 none
  | '{' => counted concat
  | '\\' => return concat ++ [← escape]
  | '.' =>
    let span ← charSpan
    let _ ← bump
    return concat ++ [.dot span]
  | '^' =>
    let span ← charSpan
    let _ ← bump
    return concat ++ [.assertion .startLine span]
  | '$' =>
    let span ← charSpan
    let _ ← bump
    return concat ++ [.assertion .endLine span]
  | c =>
    let span ← charSpan
    let _ ← bump
    return concat ++ [.literal ⟨c, false, span⟩]

/-- Reads tokens to the end, then closes the outermost alternation. -/
def whole : Reader Ast := do
  let mut concat : List Ast := []
  for _ in List.range (← fuel) do
    bumpSpace
    if ← isEof then break
    concat ← token concat
  let s ← get
  let last := concatAst concat ⟨s.concatStart, s.pos⟩
  match s.groups with
  | [] => return last
  | [.alternation alts start] => return .alternation (alts ++ [last]) ⟨start, s.pos⟩
  | .group f :: _ => fail .groupUnclosed f.span
  | .alternation _ _ :: .group f :: _ => fail .groupUnclosed f.span
  | _ => return last

end TableMachine.Regex

namespace TableMachine.Regex

/-- Reads a pattern into its syntax tree, then refuses a tree nested more deeply than
`nestLimit`. -/
def parse (pattern : String) : Except Error Ast := do
  let (ast, _) ← Regex.whole.run { chars := pattern.toList.toArray }
  ast.checkNesting
  return ast

end TableMachine.Regex
