import TableMachine.Yaml.Token
import TableMachine.Text.Utf8

/-!
# Scanning YAML

The scanner reads a YAML text character by character and produces tokens on demand
(`Scanner.peek`, `Scanner.next`). It keeps the indentation levels of the open block collections
(closing them with `blockEnd` tokens when a line starts further left), the depth of flow
collections, and, per flow level, the place where a simple key could have started: when a `:`
follows such a key, a `key` token (and, if a new block mapping starts there, a
`blockMappingStart` token) is put back in front of the key's tokens.

Tokens are produced one at a time, but while the first waiting token could still be a simple
key the scanner reads on, so that the key is known before the token is handed out. A
malformed text is refused with the problem, its place, and what was being read.

Before scanning, the whole text is checked for characters that YAML does not allow (controls
other than tab, line feed and carriage return, surrogates, and `FFFE`, `FFFF`).

Every loop is bounded by the length of the text.
-/

namespace TableMachine.Yaml

/-- A place where a simple key may have started. -/
structure SimpleKey where
  possible : Bool := false
  required : Bool := false
  tokenNumber : Nat := 0
  mark : Mark := default
  deriving Inhabited

/-- The scanner's state. The mark counts bytes in its index; `pos` is the same place as an index
into the characters. -/
structure Scanner where
  input : Array Char
  pos : Nat := 0
  mark : Mark := default
  /-- Tokens produced and not yet taken. -/
  queue : List Token := []
  /-- How many tokens were taken. -/
  taken : Nat := 0
  started : Bool := false
  indent : Int := -1
  indents : List Int := []
  keyAllowed : Bool := false
  /-- The possible simple keys, one per flow level, innermost first. -/
  keys : List SimpleKey := []
  flowLevel : Nat := 0

/-- Scanning: state and refusal. -/
abbrev ScanM := StateT Scanner (Except Error)

namespace Scan

/-- Line breaks. -/
def isBreak (c : Char) : Bool :=
  c = '\r' || c = '\n' || c = '\x85' || c = '\u2028' || c = '\u2029'

/-- Blanks. -/
def isBlank (c : Char) : Bool := c = ' ' || c = '\t'

/-- Characters of anchor names and tag handles. -/
def isWordChar (c : Char) : Bool :=
  ('0' ≤ c ∧ c ≤ '9') || ('A' ≤ c ∧ c ≤ 'Z') || ('a' ≤ c ∧ c ≤ 'z') || c = '_' || c = '-'

/-- The value of a hexadecimal digit. -/
def hexValue? (c : Char) : Option Nat :=
  if '0' ≤ c ∧ c ≤ '9' then some (c.toNat - 48)
  else if 'a' ≤ c ∧ c ≤ 'f' then some (c.toNat - 87)
  else if 'A' ≤ c ∧ c ≤ 'F' then some (c.toNat - 55)
  else none

/-- A line break, if any. -/
def breakAt : Option Char → Bool
  | some c => isBreak c
  | none => false

/-- A line break or the end. -/
def breakzAt : Option Char → Bool
  | some c => isBreak c
  | none => true

/-- A blank, a line break, or the end. -/
def blankzAt : Option Char → Bool
  | some c => isBlank c || isBreak c
  | none => true

/-- A blank. -/
def blankAt : Option Char → Bool
  | some c => isBlank c
  | none => false

/-- Whether YAML allows a character in a text. -/
def allowed (c : Char) : Bool :=
  let n := c.toNat
  n = 0x09 || n = 0x0A || n = 0x0D || (0x20 ≤ n && n ≤ 0x7E) || n = 0x85 ||
    (0xA0 ≤ n && n ≤ 0xD7FF) || (0xE000 ≤ n && n ≤ 0xFFFD) || (0x10000 ≤ n && n ≤ 0x10FFFF)

/-- The character `k` places ahead. -/
def at_ (k : Nat) : ScanM (Option Char) := do
  let s ← get
  return s.input[s.pos + k]?

/-- The current place. -/
def here : ScanM Mark := do return (← get).mark

/-- A bound for loops: what is left of the text, and some. -/
def bound : ScanM Nat := do
  let s ← get
  return s.input.size - s.pos + 2

/-- The number of bytes of the character at a position. -/
def widthAt (s : Scanner) : Nat := (s.input[s.pos]?.map Char.utf8Size).getD 1

/-- Moves past one character that is not a line break. -/
def skip : ScanM Unit :=
  modify fun s => { s with pos := s.pos + 1, mark := ⟨s.mark.index + widthAt s, s.mark.line, s.mark.column + 1⟩ }

/-- Moves past a line break of one character. -/
def skipBreak : ScanM Unit :=
  modify fun s => { s with pos := s.pos + 1, mark := ⟨s.mark.index + widthAt s, s.mark.line + 1, 0⟩ }

/-- Moves past a carriage return and line feed. -/
def skipCrlf : ScanM Unit :=
  modify fun s => { s with pos := s.pos + 2, mark := ⟨s.mark.index + 2, s.mark.line + 1, 0⟩ }

/-- Moves past a line break (`\r\n` counts as one). -/
def skipLine : ScanM Unit := do
  let c0 ← at_ 0
  let c1 ← at_ 1
  if c0 = some '\r' ∧ c1 = some '\n' then skipCrlf
  else if breakAt c0 then skipBreak

/-- Takes one character. -/
def read : ScanM Char := do
  let c ← at_ 0
  skip
  return c.getD '\x00'

/-- Takes a line break, giving it as it counts in a scalar: `\r\n`, `\r`, `\n` and next-line
all count as a line feed; the line and paragraph separators stay themselves. -/
def readLine : ScanM String := do
  let c0 ← at_ 0
  let c1 ← at_ 1
  if c0 = some '\r' ∧ c1 = some '\n' then
    skipCrlf
    return "\n"
  match c0 with
  | some c =>
    if isBreak c then
      skipBreak
      return (if c = '\u2028' ∨ c = '\u2029' then c.toString else "\n")
    else return ""
  | none => return ""

/-- Refuses with a problem at the current place and what was being read. -/
def fail {α : Type} (context : Option (String × Mark)) (problem : String) : ScanM α := do
  throw (.malformed .scanner problem (← here) context)

/-- Appends a token to the queue. -/
def enqueue (t : Token) : ScanM Unit := modify fun s => { s with queue := s.queue ++ [t] }

/-- Inserts a token at a place of the queue. -/
def insertAt (n : Nat) (t : Token) : ScanM Unit :=
  modify fun s => { s with queue := s.queue.take (n - s.taken) ++ t :: s.queue.drop (n - s.taken) }

/-! ## Simple keys and indentation -/

/-- Forgets the innermost possible simple key; refuses if it was required. -/
def removeSimpleKey : ScanM Unit := do
  let s ← get
  match s.keys with
  | k :: rest =>
    if k.possible && k.required then
      fail (some ("while scanning a simple key", k.mark)) "could not find expected ':'"
    set { s with keys := { k with possible := false } :: rest }
  | [] => pure ()

/-- Notes that a simple key may start here. -/
def saveSimpleKey : ScanM Unit := do
  let s ← get
  let required := s.flowLevel = 0 && s.indent = (s.mark.column : Int)
  if s.keyAllowed then
    let key : SimpleKey := ⟨true, required, s.taken + s.queue.length, s.mark⟩
    removeSimpleKey
    modify fun s => { s with keys := key :: s.keys.drop 1 }

/-- Forgets possible keys that can no longer be keys: on an earlier line, or more than 1024
bytes back. -/
def staleSimpleKeys : ScanM Unit := do
  let s ← get
  let mut kept : List SimpleKey := []
  for k in s.keys.reverse do
    if k.possible && (k.mark.line < s.mark.line || k.mark.index + 1024 < s.mark.index) then
      if k.required then
        fail (some ("while scanning a simple key", k.mark)) "could not find expected ':'"
      kept := { k with possible := false } :: kept
    else kept := k :: kept
  set { s with keys := kept }

/-- Opens a flow collection. -/
def increaseFlowLevel : ScanM Unit :=
  modify fun s => { s with keys := default :: s.keys, flowLevel := s.flowLevel + 1 }

/-- Closes a flow collection. -/
def decreaseFlowLevel : ScanM Unit :=
  modify fun s =>
    if s.flowLevel > 0 then { s with flowLevel := s.flowLevel - 1, keys := s.keys.drop 1 } else s

/-- Opens a block collection at `column` if it lies right of the current indentation; the start
token goes at the end of the queue or, for a key found later, at its place. -/
def rollIndent (column : Int) (number : Option Nat) (kind : TokenKind) (mark : Mark) :
    ScanM Unit := do
  let s ← get
  if s.flowLevel = 0 ∧ s.indent < column then
    set { s with indents := s.indent :: s.indents, indent := column }
    match number with
    | none => enqueue ⟨kind, mark, mark⟩
    | some n => insertAt n ⟨kind, mark, mark⟩

/-- Closes the block collections indented further than `column`. -/
def unrollIndent (column : Int) : ScanM Unit := do
  let s ← get
  if s.flowLevel = 0 then
    for _ in List.range (s.indents.length + 1) do
      let s ← get
      if s.indent ≤ column then break
      enqueue ⟨.blockEnd, s.mark, s.mark⟩
      modify fun s => { s with indent := s.indents.headD (-1), indents := s.indents.drop 1 }

/-! ## Blanks, comments, anchors and tags -/

/-- Skips blanks, comments and line breaks up to the next token. -/
def toNextToken : ScanM Unit := do
  for _ in List.range (← bound) do
    let s ← get
    if s.mark.column = 0 ∧ (← at_ 0) = some '\uFEFF' then skip
    for _ in List.range (← bound) do
      let s ← get
      let c ← at_ 0
      if c = some ' ' || ((s.flowLevel > 0 || !s.keyAllowed) && c = some '\t') then skip else break
    if (← at_ 0) = some '#' then
      for _ in List.range (← bound) do
        if breakzAt (← at_ 0) then break
        skip
    if breakAt (← at_ 0) then
      skipLine
      if (← get).flowLevel = 0 then modify fun s => { s with keyAllowed := true }
    else break

/-- Reads an anchor (`&name`) or an alias (`*name`). -/
def anchorToken (isAlias : Bool) : ScanM Token := do
  let start ← here
  skip
  let mut name := ""
  for _ in List.range (← bound) do
    match ← at_ 0 with
    | some c => if isWordChar c then name := name.push (← read) else break
    | none => break
  let stop ← here
  let c ← at_ 0
  let ends := blankzAt c || c = some '?' || c = some ':' || c = some ',' || c = some ']' ||
    c = some '}' || c = some '%' || c = some '@' || c = some '\x60'
  if name.isEmpty || !ends then
    fail (some (if isAlias then "while scanning an alias" else "while scanning an anchor", start))
      "did not find expected alphabetic or numeric character"
  return ⟨if isAlias then .alias name else .anchor name, start, stop⟩

/-- The context of tag errors. -/
def tagContext (directive : Bool) : String :=
  if directive then "while parsing a %TAG directive" else "while parsing a tag"

/-- Reads `%XX` escapes of one UTF-8 character. -/
def uriEscapes (directive : Bool) (start : Mark) : ScanM String := do
  let mut bytes : List UInt8 := []
  let mut width := 0
  for _ in List.range 4 do
    let c0 ← at_ 0
    let h1 := (← at_ 1).bind hexValue?
    let h2 := (← at_ 2).bind hexValue?
    match c0, h1, h2 with
    | some '%', some a, some b =>
      let octet := a * 16 + b
      if width = 0 then
        width := if octet < 0x80 then 1 else if octet / 32 = 6 then 2 else if octet / 16 = 14 then 3
          else if octet / 8 = 30 then 4 else 0
        if width = 0 then
          fail (some (tagContext directive, start)) "found an incorrect leading UTF-8 octet"
      else if octet / 64 ≠ 2 then
        fail (some (tagContext directive, start)) "found an incorrect trailing UTF-8 octet"
      bytes := bytes ++ [octet.toUInt8]
      skip; skip; skip
      if bytes.length = width then break
    | _, _, _ => fail (some (tagContext directive, start)) "did not find URI escaped octet"
  match Text.decode bytes with
  | .ok s => return s
  | .error _ => return ""

/-- Reads the characters of a tag URI after `head` (whose leading `!` is dropped). -/
def tagUri (uriChar directive : Bool) (head : String) (start : Mark) : ScanM String := do
  let mut text := String.ofList (head.toList.drop 1)
  let mut length := head.length
  for _ in List.range (← bound) do
    match ← at_ 0 with
    | some c =>
      let ok := isWordChar c || ";/?:@&=+$.%!~*'()".toList.contains c ||
        (uriChar && (c = ',' || c = '[' || c = ']'))
      if !ok then break
      if c = '%' then text := text ++ (← uriEscapes directive start)
      else text := text.push (← read)
      length := length + 1
    | none => break
  if length = 0 then
    fail (some (tagContext directive, start)) "did not find expected tag URI"
  return text

/-- Reads a tag handle: `!`, `!!` or `!word!` (or the start of a tag written `!word`). -/
def tagHandle (directive : Bool) (start : Mark) : ScanM String := do
  if (← at_ 0) ≠ some '!' then
    fail (some (if directive then "while scanning a tag directive" else "while scanning a tag", start))
      "did not find expected '!'"
  let mut handle := (← read).toString
  for _ in List.range (← bound) do
    match ← at_ 0 with
    | some c => if isWordChar c then handle := handle.push (← read) else break
    | none => break
  if (← at_ 0) = some '!' then handle := handle.push (← read)
  else if directive && handle ≠ "!" then
    fail (some ("while parsing a tag directive", start)) "did not find expected '!'"
  return handle

/-- Reads a tag: `!<uri>`, `!handle!suffix`, `!suffix` or `!`. -/
def tagToken : ScanM Token := do
  let start ← here
  let mut handle := ""
  let mut suffix := ""
  if (← at_ 1) = some '<' then
    skip; skip
    suffix ← tagUri true false "" start
    if (← at_ 0) ≠ some '>' then
      fail (some ("while scanning a tag", start)) "did not find the expected '>'"
    skip
  else
    let h ← tagHandle false start
    if h.length > 1 && h.startsWith "!" && h.endsWith "!" then
      handle := h
      suffix ← tagUri false false "" start
    else
      suffix ← tagUri false false h start
      handle := "!"
      if suffix.isEmpty then
        handle := ""
        suffix := "!"
  let c ← at_ 0
  if !blankzAt c then
    if (← get).flowLevel = 0 || c ≠ some ',' then
      fail (some ("while scanning a tag", start)) "did not find expected whitespace or line break"
  return ⟨.tag handle suffix, start, ← here⟩

/-! ## Scalars -/

/-- Reads the indentation and empty lines before a line of a block scalar; fixes the
indentation from the widest leading blank run if it is not known yet. -/
def blockBreaks (indent : Nat) (start : Mark) : ScanM (Nat × String × Mark) := do
  let mut breaks := ""
  let mut maxIndent := 0
  let mut stop ← here
  for _ in List.range (← bound) do
    for _ in List.range (← bound) do
      let col := (← here).column
      if (indent = 0 || col < indent) && (← at_ 0) = some ' ' then skip else break
    let col := (← here).column
    if col > maxIndent then maxIndent := col
    if (indent = 0 || col < indent) && (← at_ 0) = some '\t' then
      fail (some ("while scanning a block scalar", start))
        "found a tab character where an indentation space is expected"
    if !breakAt (← at_ 0) then break
    breaks := breaks ++ (← readLine)
    stop ← here
  let mut indent := indent
  if indent = 0 then
    let outer := (← get).indent
    indent := max (max maxIndent (outer + 1).toNat) 1
  return (indent, breaks, stop)

/-- Reads a literal (`|`) or folded (`>`) block scalar. -/
def blockScalar (literal : Bool) : ScanM Token := do
  let start ← here
  skip
  let mut chomping : Int := 0
  let mut increment := 0
  let c ← at_ 0
  if c = some '+' || c = some '-' then
    chomping := if c = some '+' then 1 else -1
    skip
    match ← at_ 0 with
    | some d =>
      if d.isDigit then
        if d = '0' then
          fail (some ("while scanning a block scalar", start)) "found an indentation indicator equal to 0"
        increment := d.toNat - 48
        skip
    | none => pure ()
  else
    match c with
    | some d =>
      if d.isDigit then
        if d = '0' then
          fail (some ("while scanning a block scalar", start)) "found an indentation indicator equal to 0"
        increment := d.toNat - 48
        skip
        let e ← at_ 0
        if e = some '+' || e = some '-' then
          chomping := if e = some '+' then 1 else -1
          skip
    | none => pure ()
  for _ in List.range (← bound) do
    if blankAt (← at_ 0) then skip else break
  if (← at_ 0) = some '#' then
    for _ in List.range (← bound) do
      if breakzAt (← at_ 0) then break
      skip
  if !breakzAt (← at_ 0) then
    fail (some ("while scanning a block scalar", start)) "did not find expected comment or line break"
  if breakAt (← at_ 0) then skipLine
  let outer := (← get).indent
  let mut indent := if increment > 0 then (if outer ≥ 0 then outer.toNat + increment else increment) else 0
  let (ind, breaks, stop0) ← blockBreaks indent start
  indent := ind
  let mut trailing := breaks
  let mut stop := stop0
  let mut text := ""
  let mut leading := ""
  let mut leadingBlank := false
  for _ in List.range (← bound) do
    if (← here).column ≠ indent || (← at_ 0).isNone then break
    let trailingBlank := blankAt (← at_ 0)
    if !literal && leading.startsWith "\n" && !leadingBlank && !trailingBlank then
      if trailing.isEmpty then text := text.push ' '
      leading := ""
    else
      text := text ++ leading
      leading := ""
    text := text ++ trailing
    trailing := ""
    leadingBlank := blankAt (← at_ 0)
    for _ in List.range (← bound) do
      if breakzAt (← at_ 0) then break
      text := text.push (← read)
    leading ← readLine
    let (_, breaks, stop1) ← blockBreaks indent start
    trailing := breaks
    stop := stop1
  if chomping ≠ -1 then text := text ++ leading
  if chomping = 1 then text := text ++ trailing
  return ⟨.scalar text (if literal then .literal else .folded), start, stop⟩

/-- Whether the text at the place is a document marker (`---` or `...` at the start of a
line, followed by a blank or the end). -/
def atDocumentMarker : ScanM Bool := do
  let c0 ← at_ 0
  let c1 ← at_ 1
  let c2 ← at_ 2
  let c3 ← at_ 3
  return (← here).column = 0 &&
    ((c0 = some '-' && c1 = some '-' && c2 = some '-') ||
      (c0 = some '.' && c1 = some '.' && c2 = some '.')) && blankzAt c3

/-- The character of an escape in a double-quoted scalar, or the number of hexadecimal
digits that follow it. -/
def escapeOf : Char → Option (Sum Char Nat)
  | '0' => some (.inl '\x00')
  | 'a' => some (.inl '\x07')
  | 'b' => some (.inl '\x08')
  | 't' => some (.inl '\t')
  | '\t' => some (.inl '\t')
  | 'n' => some (.inl '\n')
  | 'v' => some (.inl '\x0b')
  | 'f' => some (.inl '\x0c')
  | 'r' => some (.inl '\r')
  | 'e' => some (.inl '\x1b')
  | ' ' => some (.inl ' ')
  | '"' => some (.inl '"')
  | '/' => some (.inl '/')
  | '\\' => some (.inl '\\')
  | 'N' => some (.inl '\x85')
  | '_' => some (.inl '\xa0')
  | 'L' => some (.inl '\u2028')
  | 'P' => some (.inl '\u2029')
  | 'x' => some (.inr 2)
  | 'u' => some (.inr 4)
  | 'U' => some (.inr 8)
  | _ => none

/-- Joins the blanks between two parts of a flow or plain scalar: a single line break folds
into a space, more line breaks stay as they are (less the first one), and blanks within a line
stay. -/
def fold (leadingBlanks : Bool) (whitespace leading trailing : String) : String :=
  if leadingBlanks then
    if leading.startsWith "\n" then (if trailing.isEmpty then " " else trailing)
    else leading ++ trailing
  else whitespace

/-- Reads a single- or double-quoted scalar. -/
def flowScalar (single : Bool) : ScanM Token := do
  let start ← here
  skip
  let quote := if single then '\'' else '"'
  let mut text := ""
  for _ in List.range (← bound) do
    if ← atDocumentMarker then
      fail (some ("while scanning a quoted scalar", start)) "found unexpected document indicator"
    if (← at_ 0).isNone then
      fail (some ("while scanning a quoted scalar", start)) "found unexpected end of stream"
    let mut leadingBlanks := false
    for _ in List.range (← bound) do
      let c0 ← at_ 0
      if blankzAt c0 then break
      let c1 ← at_ 1
      if single && c0 = some '\'' && c1 = some '\'' then
        text := text.push '\''
        skip; skip
      else if c0 = some quote then break
      else if !single && c0 = some '\\' && breakAt c1 then
        skip
        skipLine
        leadingBlanks := true
        break
      else if !single && c0 = some '\\' then
        match c1.bind escapeOf with
        | none =>
          fail (some ("while parsing a quoted scalar", start)) "found unknown escape character"
        | some (.inl e) =>
          text := text.push e
          skip; skip
        | some (.inr count) =>
          skip; skip
          let mut value := 0
          for k in List.range count do
            match (← at_ k).bind hexValue? with
            | some d => value := value * 16 + d
            | none =>
              fail (some ("while parsing a quoted scalar", start)) "did not find expected hexadecimal number"
          if (0xD800 ≤ value ∧ value ≤ 0xDFFF) ∨ value > 0x10FFFF then
            fail (some ("while parsing a quoted scalar", start)) "found invalid Unicode character escape code"
          text := text.push (Char.ofNat value)
          for _ in List.range count do skip
      else text := text.push (← read)
    if (← at_ 0) = some quote then break
    let mut whitespace := ""
    let mut leading := ""
    let mut trailing := ""
    for _ in List.range (← bound) do
      let c ← at_ 0
      if blankAt c then
        if !leadingBlanks then whitespace := whitespace.push (← read) else skip
      else if breakAt c then
        if !leadingBlanks then
          whitespace := ""
          leading ← readLine
          leadingBlanks := true
        else trailing := trailing ++ (← readLine)
      else break
    text := text ++ fold leadingBlanks whitespace leading trailing
  skip
  return ⟨.scalar text (if single then .singleQuoted else .doubleQuoted), start, ← here⟩

/-- Reads a plain scalar. -/
def plainScalar : ScanM Token := do
  let start ← here
  let mut stop := start
  let indent := (← get).indent + 1
  let mut text := ""
  let mut leadingBlanks := false
  let mut whitespace := ""
  let mut leading := ""
  let mut trailing := ""
  for _ in List.range (← bound) do
    if ← atDocumentMarker then break
    if (← at_ 0) = some '#' then break
    for _ in List.range (← bound) do
      let c0 ← at_ 0
      if blankzAt c0 then break
      let c1 ← at_ 1
      let flow := (← get).flowLevel > 0
      if flow && c0 = some ':' &&
          (c1 = some ',' || c1 = some '?' || c1 = some '[' || c1 = some ']' || c1 = some '{' || c1 = some '}') then
        fail (some ("while scanning a plain scalar", start)) "found unexpected ':'"
      if (c0 = some ':' && blankzAt c1) ||
          (flow && (c0 = some ',' || c0 = some '[' || c0 = some ']' || c0 = some '{' || c0 = some '}')) then
        break
      if leadingBlanks || !whitespace.isEmpty then
        text := text ++ fold leadingBlanks whitespace leading trailing
        leadingBlanks := false
        whitespace := ""
        leading := ""
        trailing := ""
      text := text.push (← read)
      stop ← here
    let c ← at_ 0
    if !(blankAt c || breakAt c) then break
    for _ in List.range (← bound) do
      let c ← at_ 0
      if blankAt c then
        if leadingBlanks && ((← here).column : Int) < indent && c = some '\t' then
          fail (some ("while scanning a plain scalar", start)) "found a tab character that violates indentation"
        if !leadingBlanks then whitespace := whitespace.push (← read) else skip
      else if breakAt c then
        if !leadingBlanks then
          whitespace := ""
          leading ← readLine
          leadingBlanks := true
        else trailing := trailing ++ (← readLine)
      else break
    if (← get).flowLevel = 0 && ((← here).column : Int) < indent then break
  if leadingBlanks then modify fun s => { s with keyAllowed := true }
  return ⟨.scalar text .plain, start, stop⟩

/-! ## Directives -/

/-- Reads a decimal number of a `%YAML` directive. -/
def versionNumber (start : Mark) : ScanM Nat := do
  let mut value := 0
  let mut length := 0
  for _ in List.range (← bound) do
    match ← at_ 0 with
    | some c =>
      if !c.isDigit then break
      length := length + 1
      if length > 9 then
        fail (some ("while scanning a %YAML directive", start)) "found extremely long version number"
      value := value * 10 + (c.toNat - 48)
      skip
    | none => break
  if length = 0 then
    fail (some ("while scanning a %YAML directive", start)) "did not find expected version number"
  return value

/-- Reads a `%YAML` or `%TAG` directive. -/
def directive : ScanM Token := do
  let start ← here
  skip
  let mut name := ""
  for _ in List.range (← bound) do
    match ← at_ 0 with
    | some c => if isWordChar c then name := name.push (← read) else break
    | none => break
  if name.isEmpty then
    fail (some ("while scanning a directive", start)) "could not find expected directive name"
  if !blankzAt (← at_ 0) then
    fail (some ("while scanning a directive", start)) "found unexpected non-alphabetical character"
  let kind ←
    if name = "YAML" then do
      for _ in List.range (← bound) do
        if blankAt (← at_ 0) then skip else break
      let major ← versionNumber start
      if (← at_ 0) ≠ some '.' then
        fail (some ("while scanning a %YAML directive", start)) "did not find expected digit or '.' character"
      skip
      let minor ← versionNumber start
      pure (TokenKind.versionDirective major minor)
    else if name = "TAG" then do
      for _ in List.range (← bound) do
        if blankAt (← at_ 0) then skip else break
      let handle ← tagHandle true start
      if !blankAt (← at_ 0) then
        fail (some ("while scanning a %TAG directive", start)) "did not find expected whitespace"
      for _ in List.range (← bound) do
        if blankAt (← at_ 0) then skip else break
      let pre ← tagUri true true "" start
      if !blankzAt (← at_ 0) then
        fail (some ("while scanning a %TAG directive", start)) "did not find expected whitespace or line break"
      pure (TokenKind.tagDirective handle pre)
    else fail (some ("while scanning a directive", start)) "found unknown directive name"
  let stop ← here
  for _ in List.range (← bound) do
    if blankAt (← at_ 0) then skip else break
  if (← at_ 0) = some '#' then
    for _ in List.range (← bound) do
      if breakzAt (← at_ 0) then break
      skip
  if !breakzAt (← at_ 0) then
    fail (some ("while scanning a directive", start)) "did not find expected comment or line break"
  if breakAt (← at_ 0) then skipLine
  return ⟨kind, start, stop⟩

/-! ## Fetching tokens -/

/-- Produces the stream start. -/
def fetchStreamStart : ScanM Unit := do
  modify fun s => { s with indent := -1, keys := [default], keyAllowed := true, started := true }
  let m ← here
  enqueue ⟨.streamStart, m, m⟩

/-- Produces the stream end, on a line of its own. -/
def fetchStreamEnd : ScanM Unit := do
  let s ← get
  if s.mark.column ≠ 0 then set { s with mark := ⟨s.mark.index, s.mark.line + 1, 0⟩ }
  unrollIndent (-1)
  removeSimpleKey
  modify fun s => { s with keyAllowed := false }
  let m ← here
  enqueue ⟨.streamEnd, m, m⟩

/-- Produces a token of `width` indicator characters. -/
def fetchIndicator (kind : TokenKind) (width : Nat) : ScanM Unit := do
  let start ← here
  for _ in List.range width do skip
  enqueue ⟨kind, start, ← here⟩

/-- Produces the next token(s). -/
def fetchNext : ScanM Unit := do
  if !(← get).started then return ← fetchStreamStart
  toNextToken
  staleSimpleKeys
  unrollIndent ((← here).column : Int)
  let c0 ← at_ 0
  let c1 ← at_ 1
  let s ← get
  let flow := s.flowLevel > 0
  let column := s.mark.column
  match c0 with
  | none => fetchStreamEnd
  | some c =>
    if column = 0 && c = '%' then
      unrollIndent (-1)
      removeSimpleKey
      modify fun s => { s with keyAllowed := false }
      enqueue (← directive)
    else if ← atDocumentMarker then
      unrollIndent (-1)
      removeSimpleKey
      modify fun s => { s with keyAllowed := false }
      fetchIndicator (if c = '-' then .documentStart else .documentEnd) 3
    else if c = '[' || c = '{' then
      saveSimpleKey
      increaseFlowLevel
      modify fun s => { s with keyAllowed := true }
      fetchIndicator (if c = '[' then .flowSequenceStart else .flowMappingStart) 1
    else if c = ']' || c = '}' then
      removeSimpleKey
      decreaseFlowLevel
      modify fun s => { s with keyAllowed := false }
      fetchIndicator (if c = ']' then .flowSequenceEnd else .flowMappingEnd) 1
    else if c = ',' then
      removeSimpleKey
      modify fun s => { s with keyAllowed := true }
      fetchIndicator .flowEntry 1
    else if c = '-' && blankzAt c1 then
      if !flow then
        if !s.keyAllowed then fail none "block sequence entries are not allowed in this context"
        rollIndent column none .blockSequenceStart s.mark
      removeSimpleKey
      modify fun s => { s with keyAllowed := true }
      fetchIndicator .blockEntry 1
    else if c = '?' && (flow || blankzAt c1) then
      if !flow then
        if !s.keyAllowed then fail none "mapping keys are not allowed in this context"
        rollIndent column none .blockMappingStart s.mark
      removeSimpleKey
      modify fun s => { s with keyAllowed := !flow }
      fetchIndicator .key 1
    else if c = ':' && (flow || blankzAt c1) then
      let key := s.keys.headD default
      if key.possible then
        insertAt key.tokenNumber ⟨.key, key.mark, key.mark⟩
        rollIndent key.mark.column (some key.tokenNumber) .blockMappingStart key.mark
        modify fun s => { s with keys := { key with possible := false } :: s.keys.drop 1,
                                 keyAllowed := false }
      else
        if !flow then
          if !s.keyAllowed then fail none "mapping values are not allowed in this context"
          rollIndent column none .blockMappingStart s.mark
        modify fun s => { s with keyAllowed := !flow }
      fetchIndicator .value 1
    else if c = '*' || c = '&' then
      saveSimpleKey
      modify fun s => { s with keyAllowed := false }
      enqueue (← anchorToken (c = '*'))
    else if c = '!' then
      saveSimpleKey
      modify fun s => { s with keyAllowed := false }
      enqueue (← tagToken)
    else if (c = '|' || c = '>') && !flow then
      removeSimpleKey
      modify fun s => { s with keyAllowed := true }
      enqueue (← blockScalar (c = '|'))
    else if c = '\'' || c = '"' then
      saveSimpleKey
      modify fun s => { s with keyAllowed := false }
      enqueue (← flowScalar (c = '\''))
    else if !(blankzAt c0 || "-?:,[]\x7b\x7d#&*!|>'\"%@\x60".toList.contains c) ||
        (c = '-' && !blankAt c1) || (!flow && (c = '?' || c = ':') && !blankzAt c1) then
      saveSimpleKey
      modify fun s => { s with keyAllowed := false }
      enqueue (← plainScalar)
    else
      fail (some ("while scanning for the next token", s.mark)) "found character that cannot start any token"

/-- Whether the first waiting token might still turn out to be a simple key. -/
def keyPending : ScanM Bool := do
  let s ← get
  return s.keys.any fun k => k.possible && k.tokenNumber = s.taken

/-- Fetches tokens until the first waiting one is settled. -/
def fetchMore : ScanM Unit := do
  let n := 4 * ((← get).input.size + 4)
  for _ in List.range n do
    if (← get).queue.isEmpty then fetchNext
    else
      staleSimpleKeys
      if ← keyPending then fetchNext else break

end Scan

namespace Scanner

open Scan

/-- A scanner over a text, after checking its characters; a leading byte order mark is dropped.
A character that is not allowed is reported at its byte offset in the whole text, the byte order
mark included. -/
def start (text : String) : Except Error Scanner :=
  let (cs, skipped) := match text.toList with
    | '\uFEFF' :: rest => (rest, 3)
    | cs => (cs, 0)
  let bad := cs.findIdx? (!allowed ·)
  match bad with
  | some i =>
    let offset := skipped + (Text.encode (String.ofList (cs.take i))).length
    .error (.malformed .reader "control characters are not allowed" ⟨offset, 0, 0⟩ none)
  | none => .ok { input := cs.toArray }

/-- The first waiting token. -/
def peek : ScanM Token := do
  fetchMore
  match (← get).queue.head? with
  | some t => return t
  | none => return ⟨.streamEnd, (← here), (← here)⟩

/-- Takes the first waiting token. -/
def next : ScanM Unit := do
  fetchMore
  modify fun s => { s with queue := s.queue.drop 1, taken := s.taken + 1 }

end Scanner

end TableMachine.Yaml
