import TableMachine.Json.Value
import TableMachine.Text.Quoted
import TableMachine.Binary64

/-!
# Reading JSON

`Json.read` reads one JSON value from a text, with blanks (space, tab, line feed, carriage
return) allowed around it and nothing else after it. Objects keep their keys in order, and a
repeated key keeps its first place and takes its last value (`Json.Fields.insert`).

A failure names its cause (`ReadErrorCode`) and the place where it was found, as a line (from 1)
and a column counted in bytes. The text is read a byte at a time: a cause found at the next
character, by looking at it or by taking it, points one byte past what was read before it, even
when that character has several bytes; the others point at the end of what was read. A `\u`
escape takes the next four bytes, whatever characters they belong to. Each cause falls in a
category: running out of text is `eof`, every other cause is `syntax`.

Nesting deeper than 127 arrays and objects is refused, and so is a number too large for a
double as the reader computes it. Digits go into a 64-bit significand until the next one would
overflow it; later digits of the integer part only raise the power of ten, and later digits of
the fraction are dropped. The exponent is read as a 32-bit number: a digit that would overflow it
ends the number as out of range when the significand is not zero and the exponent is positive,
and as zero otherwise. Then the significand, rounded to a double, is multiplied by the power of
ten, rounded to a double; a power above 308, or a product that rounds to infinity, is out of
range.
-/

namespace TableMachine.Json

/-- Why a text is not one JSON value. -/
inductive ReadErrorCode where
  | endInArray
  | endInObject
  | endInString
  | endInValue
  | expectedColon
  | expectedCommaOrArrayEnd
  | expectedCommaOrObjectEnd
  | badLiteral
  | expectedValue
  | badEscape
  | badNumber
  | numberOutOfRange
  | controlInString
  | keyNotString
  | loneSurrogate
  | unexpectedEndOfEscape
  | trailingComma
  | trailingCharacters
  | tooDeep
  deriving DecidableEq, Repr

/-- The category of a cause: `eof` for text that ends too soon, `syntax` otherwise. -/
def ReadErrorCode.category : ReadErrorCode → String
  | .endInArray | .endInObject | .endInString | .endInValue => "eof"
  | _ => "syntax"

/-- The wording of a cause. -/
def ReadErrorCode.message : ReadErrorCode → String
  | .endInArray => "EOF while parsing a list"
  | .endInObject => "EOF while parsing an object"
  | .endInString => "EOF while parsing a string"
  | .endInValue => "EOF while parsing a value"
  | .expectedColon => "expected `:`"
  | .expectedCommaOrArrayEnd => "expected `,` or `]`"
  | .expectedCommaOrObjectEnd => "expected `,` or `\x7d`"
  | .badLiteral => "expected ident"
  | .expectedValue => "expected value"
  | .badEscape => "invalid escape"
  | .badNumber => "invalid number"
  | .numberOutOfRange => "number out of range"
  | .controlInString => "control character (\\u0000-\\u001F) found while parsing a string"
  | .keyNotString => "key must be a string"
  | .loneSurrogate => "lone leading surrogate in hex escape"
  | .unexpectedEndOfEscape => "unexpected end of hex escape"
  | .trailingComma => "trailing comma"
  | .trailingCharacters => "trailing characters"
  | .tooDeep => "recursion limit exceeded"

/-- A failure to read JSON: its cause and place. -/
structure ReadError where
  code : ReadErrorCode
  line : Nat
  column : Nat
  deriving DecidableEq, Repr

/-- The wording of a failure with its place. -/
def ReadError.message (e : ReadError) : String :=
  s!"{e.code.message} at line {e.line} column {e.column}"

/-- The structured form of a failure, as debugging output shows it. -/
def ReadError.debugText (e : ReadError) : String :=
  "Error(" ++ Text.quote e.code.message ++ s!", line: {e.line}, column: {e.column})"

/-- The place in the text: what is left, and the line and byte column of the next character. -/
structure Cursor where
  rest : List Char
  line : Nat
  column : Nat

namespace Cursor

/-- The cursor after taking one character. -/
def advance (cur : Cursor) : Cursor :=
  match cur.rest with
  | [] => cur
  | c :: rest =>
    if c = '\n' then ⟨rest, cur.line + 1, 0⟩ else ⟨rest, cur.line, cur.column + c.utf8Size⟩

/-- A failure at the end of what was read. -/
def fail (cur : Cursor) (code : ReadErrorCode) : ReadError := ⟨code, cur.line, cur.column⟩

/-- A failure found by looking at the next character. -/
def failAhead (cur : Cursor) (code : ReadErrorCode) : ReadError :=
  match cur.rest with
  | [] => ⟨code, cur.line, cur.column⟩
  | c :: _ => if c = '\n' then ⟨code, cur.line + 1, 0⟩ else ⟨code, cur.line, cur.column + 1⟩

/-- Whether a character is a blank between JSON tokens. -/
def isBlank (c : Char) : Bool := c = ' ' || c = '\n' || c = '\t' || c = '\r'

/-- Skips blanks. -/
def skipBlanks (cur : Cursor) : Cursor :=
  go cur.rest cur.line cur.column
where
  go : List Char → Nat → Nat → Cursor
  | c :: rest, line, col =>
    if c = '\n' then go rest (line + 1) 0
    else if isBlank c then go rest line (col + 1)
    else ⟨c :: rest, line, col⟩
  | [], line, col => ⟨[], line, col⟩

/-- The next character, if any. -/
def peek (cur : Cursor) : Option Char := cur.rest.head?

end Cursor

/-! ## Strings -/

/-- The value of four hexadecimal digits. -/
def hex4? (a b c d : Char) : Option Nat :=
  let digit := fun (x : Char) =>
    if '0' ≤ x ∧ x ≤ '9' then some (x.toNat - 48)
    else if 'a' ≤ x ∧ x ≤ 'f' then some (x.toNat - 87)
    else if 'A' ≤ x ∧ x ≤ 'F' then some (x.toNat - 55)
    else none
  match digit a, digit b, digit c, digit d with
  | some w, some x, some y, some z => some (((w * 16 + x) * 16 + y) * 16 + z)
  | _, _, _, _ => none

/-- The line and byte column `n` bytes further into `cs` from line `line` and column `col`, or at
the end of `cs` if it holds fewer. -/
def bytePlace (line col : Nat) : Nat → List Char → Nat × Nat
  | 0, _ => (line, col)
  | _, [] => (line, col)
  | n + 1, c :: rest =>
    if c = '\n' then bytePlace (line + 1) 0 n rest
    else if c.utf8Size ≤ n + 1 then bytePlace line (col + c.utf8Size) (n + 1 - c.utf8Size) rest
    else (line, col + n + 1)

/-- The failure of a `\u` escape whose next four bytes `cs` are not all hexadecimal digits: an
invalid escape just after those four bytes, or, when fewer than four bytes are left, the string
ending at the end of the text. -/
def badHexEscape (line col : Nat) (cs : List Char) : ReadError :=
  let (l, k) := bytePlace line col 4 cs
  if 4 ≤ (cs.map Char.utf8Size).foldr (· + ·) 0 then ⟨.badEscape, l, k⟩ else ⟨.endInString, l, k⟩

/-- Reads the body of a string after its opening quote, at line `line` and byte column `col`,
`acc` holding the characters read so far (newest first). -/
def stringBody (line col : Nat) (acc : List Char) : List Char → Except ReadError (String × Cursor)
  | [] => .error ⟨.endInString, line, col⟩
  | '"' :: rest => .ok (String.ofList acc.reverse, ⟨rest, line, col + 1⟩)
  | '\\' :: rest =>
    match rest with
    | [] => .error ⟨.endInString, line, col + 1⟩
    | '"' :: rest => stringBody line (col + 2) ('"' :: acc) rest
    | '\\' :: rest => stringBody line (col + 2) ('\\' :: acc) rest
    | '/' :: rest => stringBody line (col + 2) ('/' :: acc) rest
    | 'b' :: rest => stringBody line (col + 2) ('\x08' :: acc) rest
    | 'f' :: rest => stringBody line (col + 2) ('\x0c' :: acc) rest
    | 'n' :: rest => stringBody line (col + 2) ('\n' :: acc) rest
    | 'r' :: rest => stringBody line (col + 2) ('\r' :: acc) rest
    | 't' :: rest => stringBody line (col + 2) ('\t' :: acc) rest
    | 'u' :: rest =>
      let col := col + 2
      match rest with
      | a :: b :: c :: d :: rest =>
        match hex4? a b c d with
        | none => .error (badHexEscape line col (a :: b :: c :: d :: rest))
        | some n =>
          let col := col + 4
          if 0xDC00 ≤ n ∧ n ≤ 0xDFFF then .error ⟨.loneSurrogate, line, col⟩
          else if 0xD800 ≤ n ∧ n ≤ 0xDBFF then
            match rest with
            | [] => .error ⟨.endInString, line, col⟩
            | '\\' :: rest =>
              match rest with
              | [] => .error ⟨.endInString, line, col + 1⟩
              | 'u' :: rest =>
                let col := col + 2
                match rest with
                | a :: b :: c :: d :: rest =>
                  match hex4? a b c d with
                  | none => .error (badHexEscape line col (a :: b :: c :: d :: rest))
                  | some m =>
                    if 0xDC00 ≤ m ∧ m ≤ 0xDFFF then
                      let code := (n - 0xD800) * 1024 + (m - 0xDC00) + 0x10000
                      stringBody line (col + 4) (Char.ofNat code :: acc) rest
                    else .error ⟨.loneSurrogate, line, col + 4⟩
                | short => .error (badHexEscape line col short)
              | x :: _ =>
                if x = '\n' then .error ⟨.unexpectedEndOfEscape, line + 1, 0⟩
                else .error ⟨.unexpectedEndOfEscape, line, col + 2⟩
            | x :: _ =>
              if x = '\n' then .error ⟨.unexpectedEndOfEscape, line + 1, 0⟩
              else .error ⟨.unexpectedEndOfEscape, line, col + 1⟩
          else stringBody line col (Char.ofNat n :: acc) rest
      | short => .error (badHexEscape line col short)
    | x :: _ =>
      if x = '\n' then .error ⟨.badEscape, line + 1, 0⟩
      else .error ⟨.badEscape, line, col + 2⟩
  | c :: rest =>
    if c.toNat < 0x20 then
      (if c = '\n' then .error ⟨.controlInString, line + 1, 0⟩
       else .error ⟨.controlInString, line, col + 1⟩)
    else stringBody line (col + c.utf8Size) (c :: acc) rest

/-! ## Numbers -/

/-- The decimal digits at the front of a list, with the rest. -/
def digitsPrefix (cs : List Char) : List Char × List Char :=
  (cs.takeWhile Char.isDigit, cs.dropWhile Char.isDigit)

/-- The value of a list of decimal digits. -/
def digitsValue (ds : List Char) : Nat := ds.foldl (fun n d => n * 10 + (d.toNat - 48)) 0

/-- The bound of a number's significand: the largest 64-bit unsigned number. -/
def significandLimit : Nat := Nat.pow 2 64 - 1

/-- The bound of an exponent: the largest 32-bit signed number. -/
def exponentLimit : Nat := Nat.pow 2 31 - 1

/-- Whether `acc * 10 + d` would pass `limit`. -/
def passes (acc d limit : Nat) : Bool := acc ≥ limit / 10 && (acc > limit / 10 || d > limit % 10)

/-- The significand and power of ten of an integer part: digits join the significand until one
would overflow it, and each digit from there on raises the power of ten. -/
def wholeParts (ds : List Char) : Nat × Int :=
  let (sig, e, _) := ds.foldl (fun (st : Nat × Int × Bool) c =>
    let (sig, e, full) := st
    let d := c.toNat - 48
    if full || passes sig d significandLimit then (sig, e + 1, true) else (sig * 10 + d, e, false))
    (0, 0, false)
  (sig, e)

/-- The significand and power of ten after a fraction: digits join the significand, each
lowering the power of ten, until one would overflow it; the rest are dropped. -/
def fractionParts (sig : Nat) (e : Int) (ds : List Char) : Nat × Int :=
  let (sig, e, _) := ds.foldl (fun (st : Nat × Int × Bool) c =>
    let (sig, e, full) := st
    let d := c.toNat - 48
    if full || passes sig d significandLimit then (sig, e, true) else (sig * 10 + d, e - 1, false))
    (sig, e, false)
  (sig, e)

/-- The value of exponent digits, or, when a digit would make it pass the 32-bit bound, how many
digits were taken up to and including that one. -/
def exponentValue : List Char → Nat → Nat → Except Nat Nat
  | [], acc, _ => .ok acc
  | c :: rest, acc, count =>
    let d := c.toNat - 48
    if passes acc d exponentLimit then .error (count + 1) else exponentValue rest (acc * 10 + d) (count + 1)

/-- Whether a significand times a power of ten is out of range: a power above 308, or a product
of the two rounded doubles that rounds to infinity. A zero significand is never out of range. -/
def outOfRange (sig : Nat) (e : Int) : Bool :=
  sig ≠ 0 && 0 ≤ e && (e > 308 ||
    match Binary64.ofNat? sig, Binary64.ofDecimal? 1 e with
    | some a, some p => (a.mul p).isNone
    | _, _ => true)

/-- Reads a number whose first character (a digit or a minus sign) is next. -/
def number (cur : Cursor) : Except ReadError (Json × Cursor) := do
  let (negative, cur) := if cur.peek = some '-' then (true, cur.advance) else (false, cur)
  let take := fun (cur : Cursor) (ds : List Char) =>
    ({ cur with rest := cur.rest.drop ds.length, column := cur.column + ds.length } : Cursor)
  -- the integer part
  let (whole, cur) ← match cur.rest with
    | [] => .error (cur.fail .endInValue)
    | '0' :: rest =>
      match rest with
      | d :: _ => if d.isDigit then .error ((cur.advance).failAhead .badNumber) else .ok (['0'], cur.advance)
      | [] => .ok (['0'], cur.advance)
    | c :: _ =>
      if c.isDigit then
        let ds := (digitsPrefix cur.rest).1
        .ok (ds, take cur ds)
      else .error (cur.failAhead .badNumber)
  -- the fraction
  let (frac, cur) ← match cur.rest with
    | '.' :: rest =>
      let cur := cur.advance
      let ds := (digitsPrefix rest).1
      if ds.isEmpty then
        match rest with
        | [] => .error (cur.failAhead .endInValue)
        | _ => .error (cur.failAhead .badNumber)
      else .ok (ds, take cur ds)
    | _ => .ok ([], cur)
  let (sig, e) := wholeParts whole
  let (sig, e) := fractionParts sig e frac
  let m := digitsValue (whole ++ frac)
  let exact : Int → Json := Json.num (if negative then -(m : Int) else m)
  -- the exponent
  let (value, e, cur) ← match cur.rest with
    | c :: _ =>
      if c = 'e' ∨ c = 'E' then
        let cur := cur.advance
        let (positive, cur) :=
          match cur.rest with
          | '+' :: _ => (true, cur.advance)
          | '-' :: _ => (false, cur.advance)
          | _ => (true, cur)
        match cur.rest with
        | [] => .error (cur.fail .endInValue)
        | d :: _ =>
          if d.isDigit then
            let ds := (digitsPrefix cur.rest).1
            match exponentValue ds 0 0 with
            | .error k =>
              if sig ≠ 0 && positive then .error ((take cur (ds.take k)).fail .numberOutOfRange)
              else .ok (Json.num 0 0, (0 : Int), take cur ds)
            | .ok x =>
              let x : Int := if positive then x else -(x : Int)
              .ok (exact (x - frac.length), e + x, take cur ds)
          else .error (cur.failAhead .badNumber)
      else .ok (exact (-(frac.length : Int)), e, cur)
    | [] => .ok (exact (-(frac.length : Int)), e, cur)
  if outOfRange sig e then .error (cur.fail .numberOutOfRange) else .ok (value, cur)

/-! ## Values -/

/-- Reads the rest of a literal after its first character. -/
def literal (cur : Cursor) : List Char → Except ReadError Cursor
  | [] => .ok cur
  | x :: xs =>
    match cur.rest with
    | [] => .error (cur.fail .endInValue)
    | c :: _ => if c = x then literal cur.advance xs else .error (cur.failAhead .badLiteral)

mutual

/-- Reads one value after blanks. `depth` is how many more arrays and objects may be opened;
`fuel` bounds the calls and is never the limit for a fuel of twice the text's length. -/
def value : Nat → Nat → Cursor → Except ReadError (Json × Cursor)
  | 0, _, cur => .error (cur.fail .tooDeep)
  | fuel + 1, depth, cur =>
    let cur := cur.skipBlanks
    match cur.rest with
    | [] => .error (cur.failAhead .endInValue)
    | 'n' :: _ => do let cur ← literal cur.advance "ull".toList; .ok (.null, cur)
    | 't' :: _ => do let cur ← literal cur.advance "rue".toList; .ok (.bool true, cur)
    | 'f' :: _ => do let cur ← literal cur.advance "alse".toList; .ok (.bool false, cur)
    | '"' :: rest => do
      let (s, cur) ← stringBody cur.line (cur.column + 1) [] rest
      .ok (.str s, cur)
    | '[' :: _ =>
      match depth with
      | 0 => .error (cur.failAhead .tooDeep)
      | depth + 1 => items fuel depth [] true cur.advance
    | '{' :: _ =>
      match depth with
      | 0 => .error (cur.failAhead .tooDeep)
      | depth + 1 => members fuel depth [] true cur.advance
    | c :: _ =>
      if c = '-' ∨ c.isDigit then number cur else .error (cur.failAhead .expectedValue)

/-- Reads array items after `[` or after an item; `first` tells whether none was read yet. -/
def items : Nat → Nat → List Json → Bool → Cursor → Except ReadError (Json × Cursor)
  | 0, _, _, _, cur => .error (cur.fail .tooDeep)
  | fuel + 1, depth, acc, first, cur =>
    let cur := cur.skipBlanks
    match cur.rest with
    | [] => .error (cur.failAhead .endInArray)
    | ']' :: _ => .ok (.arr acc.reverse, cur.advance)
    | ',' :: _ =>
      if first then do
        let (v, cur) ← value fuel depth cur
        items fuel depth (v :: acc) false cur
      else
        let cur := cur.advance.skipBlanks
        match cur.rest with
        | [] => .error (cur.failAhead .endInValue)
        | ']' :: _ => .error (cur.failAhead .trailingComma)
        | _ => do
          let (v, cur) ← value fuel depth cur
          items fuel depth (v :: acc) false cur
    | _ =>
      if first then do
        let (v, cur) ← value fuel depth cur
        items fuel depth (v :: acc) false cur
      else .error (cur.failAhead .expectedCommaOrArrayEnd)

/-- Reads object members after `{` or after a member; `first` tells whether none was read. -/
def members : Nat → Nat → List (String × Json) → Bool → Cursor → Except ReadError (Json × Cursor)
  | 0, _, _, _, cur => .error (cur.fail .tooDeep)
  | fuel + 1, depth, acc, first, cur =>
    let cur := cur.skipBlanks
    match cur.rest with
    | [] => .error (cur.failAhead .endInObject)
    | '}' :: _ => .ok (.obj acc, cur.advance)
    | ',' :: _ =>
      if first then .error (cur.failAhead .keyNotString)
      else
        let cur := cur.advance.skipBlanks
        match cur.rest with
        | [] => .error (cur.failAhead .endInValue)
        | '}' :: _ => .error (cur.failAhead .trailingComma)
        | '"' :: _ => member fuel depth acc cur
        | _ => .error (cur.failAhead .keyNotString)
    | '"' :: _ =>
      if first then member fuel depth acc cur
      else .error (cur.failAhead .expectedCommaOrObjectEnd)
    | _ =>
      if first then .error (cur.failAhead .keyNotString)
      else .error (cur.failAhead .expectedCommaOrObjectEnd)

/-- Reads one member whose key's opening quote is next, then the members after it. -/
def member : Nat → Nat → List (String × Json) → Cursor → Except ReadError (Json × Cursor)
  | 0, _, _, cur => .error (cur.fail .tooDeep)
  | fuel + 1, depth, acc, cur => do
    let (k, cur) ← stringBody cur.line (cur.column + 1) [] cur.rest.tail
    let cur := cur.skipBlanks
    match cur.rest with
    | ':' :: _ =>
      let (v, cur) ← value fuel depth cur.advance
      members fuel depth (Fields.insert k v acc) false cur
    | [] => .error (cur.failAhead .endInObject)
    | _ => .error (cur.failAhead .expectedColon)

end

/-- Reads a text that holds exactly one JSON value. -/
def read (text : String) : Except ReadError Json := do
  let cs := text.toList
  let (v, cur) ← value (2 * cs.length + 4) 127 ⟨cs, 1, 0⟩
  let cur := cur.skipBlanks
  match cur.rest with
  | [] => .ok v
  | _ => .error (cur.failAhead .trailingCharacters)

end TableMachine.Json
