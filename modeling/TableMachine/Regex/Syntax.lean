import TableMachine.Regex.CharSet

/-!
# Pattern syntax

The syntax tree of a pattern, and the reasons a pattern can be refused. Positions are indices
into the pattern's characters; a `Span` covers `start` up to, not including, `stop`.

The syntax is that of the usual regular expressions with Unicode classes: literals and escapes,
`.`, anchors and word boundaries, classes (`[a-z]`, `\d`, `\p{Greek}`, `[[:alpha:]]`, with `&&`,
`--` and `~~` inside brackets), groups with flags (`(?i)`, `(?s:…)`, named captures), the
repetitions `?`, `*`, `+` and `{n,m}` (each possibly lazy), and alternation. Back-references
and look-around are refused.
-/

namespace TableMachine.Regex

/-- A stretch of the pattern, as character indices. -/
structure Span where
  start : Nat
  stop : Nat
  deriving DecidableEq, Repr, Inhabited

/-- The flags a group can set. -/
inductive Flag where
  | caseInsensitive
  | multiLine
  | dotMatchesNewLine
  | swapGreed
  | unicode
  | crlf
  | ignoreWhitespace
  deriving DecidableEq, Repr

/-- One item of a flag group: a flag, or the minus that negates the flags after it. -/
inductive FlagItem where
  | flag (f : Flag)
  | negation
  deriving DecidableEq, Repr

/-- Zero-width assertions. -/
inductive Assertion where
  | startLine
  | endLine
  | startText
  | endText
  | wordBoundary
  | notWordBoundary
  | wordStart
  | wordEnd
  | wordStartHalf
  | wordEndHalf
  deriving DecidableEq, Repr

/-- How a Unicode class names its set. -/
inductive UnicodeQuery where
  /-- `\pL`. -/
  | oneLetter (c : Char)
  /-- `\p{Greek}`. -/
  | named (name : String)
  /-- `\p{sc=Greek}`; `negated` for the `!=` form. -/
  | valued (name value : String) (negated : Bool)
  deriving DecidableEq, Repr

/-- A literal character; `fromHexByte` marks `\xNN` escapes, which name a byte when Unicode is
off. -/
structure Literal where
  c : Char
  fromHexByte : Bool
  span : Span
  deriving DecidableEq, Repr

mutual

/-- An item inside brackets. -/
inductive ClassItem where
  | literal (lit : Literal)
  | range (lo hi : Literal)
  | ascii (name : String) (negated : Bool) (span : Span)
  | unicode (query : UnicodeQuery) (negated : Bool) (span : Span)
  | perl (cls : PerlClass) (negated : Bool) (span : Span)
  | bracketed (negated : Bool) (set : ClassSet) (span : Span)

/-- The contents of brackets: a union of items (its span runs from the first item to the last),
or an operation on two contents (from the start of the left side to the end of the right). -/
inductive ClassSet where
  | union (items : List ClassItem) (span : Span)
  | intersection (lhs rhs : ClassSet) (span : Span)
  | difference (lhs rhs : ClassSet) (span : Span)
  | symmetricDifference (lhs rhs : ClassSet) (span : Span)

end

/-- The span of a class item. -/
def ClassItem.span : ClassItem → Span
  | .literal lit => lit.span
  | .range lo hi => ⟨lo.span.start, hi.span.stop⟩
  | .ascii _ _ span | .unicode _ _ span | .perl _ _ span | .bracketed _ _ span => span

/-- The span of a class's contents. -/
def ClassSet.span : ClassSet → Span
  | .union _ span | .intersection _ _ span | .difference _ _ span
  | .symmetricDifference _ _ span => span

/-- What a group is: a capture, numbered from 1 in the order of the opening parentheses and
possibly named, or a group that only sets flags for its body. -/
inductive GroupKind where
  | capture (index : Nat) (name : Option String)
  | nonCapturing (flags : List FlagItem)
  deriving DecidableEq, Repr

/-- A pattern's syntax tree. Every node knows the stretch of the pattern it was read from: a
group from its `(` to its `)`, a repetition from the start of its operand to the end of its
operator, a concatenation or alternation from its first character to its last. -/
inductive Ast where
  | empty (span : Span)
  | flags (items : List FlagItem) (span : Span)
  | literal (lit : Literal)
  | dot (span : Span)
  | assertion (a : Assertion) (span : Span)
  | unicode (query : UnicodeQuery) (negated : Bool) (span : Span)
  | perl (cls : PerlClass) (negated : Bool) (span : Span)
  | bracketed (negated : Bool) (set : ClassSet) (span : Span)
  | repetition (body : Ast) (min : Nat) (max : Option Nat) (span : Span)
  | group (kind : GroupKind) (body : Ast) (span : Span)
  | alternation (branches : List Ast) (span : Span)
  | concat (items : List Ast) (span : Span)

/-- The span of a tree. -/
def Ast.span : Ast → Span
  | .literal lit => lit.span
  | .empty span | .flags _ span | .dot span | .assertion _ span | .unicode _ _ span
  | .perl _ _ span | .bracketed _ _ span | .repetition _ _ _ span | .group _ _ span
  | .alternation _ span | .concat _ span => span

/-- Why a pattern is refused. -/
inductive ErrorKind where
  | classEscapeInvalid
  | classRangeInvalid
  | classRangeLiteral
  | classUnclosed
  | decimalEmpty
  | decimalInvalid
  | escapeHexEmpty
  | escapeHexInvalid
  | escapeHexInvalidDigit
  | escapeUnexpectedEof
  | escapeUnrecognized
  | flagDanglingNegation
  | flagDuplicate
  | flagRepeatedNegation
  | flagUnexpectedEof
  | flagUnrecognized
  | groupNameDuplicate
  | groupNameEmpty
  | groupNameInvalid
  | groupNameUnexpectedEof
  | groupUnclosed
  | groupUnopened
  | nestLimitExceeded
  | repetitionCountInvalid
  | repetitionCountDecimalEmpty
  | repetitionCountUnclosed
  | repetitionMissing
  | specialWordBoundaryUnclosed
  | specialWordBoundaryUnrecognized
  | specialWordOrRepetitionUnexpectedEof
  | unicodeClassInvalid
  | unsupportedBackreference
  | unsupportedLookAround
  | unicodeNotAllowed
  | invalidUtf8
  | unicodePropertyNotFound
  | unicodePropertyValueNotFound
  deriving DecidableEq, Repr

/-- The wording of a reason. -/
def ErrorKind.message : ErrorKind → String
  | .classEscapeInvalid => "invalid escape sequence found in character class"
  | .classRangeInvalid => "invalid character class range, the start must be <= the end"
  | .classRangeLiteral => "invalid range boundary, must be a literal"
  | .classUnclosed => "unclosed character class"
  | .decimalEmpty => "decimal literal empty"
  | .decimalInvalid => "decimal literal invalid"
  | .escapeHexEmpty => "hexadecimal literal empty"
  | .escapeHexInvalid => "hexadecimal literal is not a Unicode scalar value"
  | .escapeHexInvalidDigit => "invalid hexadecimal digit"
  | .escapeUnexpectedEof => "incomplete escape sequence, reached end of pattern prematurely"
  | .escapeUnrecognized => "unrecognized escape sequence"
  | .flagDanglingNegation => "dangling flag negation operator"
  | .flagDuplicate => "duplicate flag"
  | .flagRepeatedNegation => "flag negation operator repeated"
  | .flagUnexpectedEof => "expected flag but got end of regex"
  | .flagUnrecognized => "unrecognized flag"
  | .groupNameDuplicate => "duplicate capture group name"
  | .groupNameEmpty => "empty capture group name"
  | .groupNameInvalid => "invalid capture group character"
  | .groupNameUnexpectedEof => "unclosed capture group name"
  | .groupUnclosed => "unclosed group"
  | .groupUnopened => "unopened group"
  | .nestLimitExceeded => "exceed the maximum number of nested parentheses/brackets (250)"
  | .repetitionCountInvalid => "invalid repetition count range, the start must be <= the end"
  | .repetitionCountDecimalEmpty => "repetition quantifier expects a valid decimal"
  | .repetitionCountUnclosed => "unclosed counted repetition"
  | .repetitionMissing => "repetition operator missing expression"
  | .specialWordBoundaryUnclosed =>
    "special word boundary assertion is either unclosed or contains an invalid character"
  | .specialWordBoundaryUnrecognized =>
    "unrecognized special word boundary assertion, valid choices are: start, end, start-half or end-half"
  | .specialWordOrRepetitionUnexpectedEof =>
    "found either the beginning of a special word boundary or a bounded repetition on a \\b with an opening brace, but no closing brace"
  | .unicodeClassInvalid => "invalid Unicode character class"
  | .unsupportedBackreference => "backreferences are not supported"
  | .unsupportedLookAround => "look-around, including look-ahead and look-behind, is not supported"
  | .unicodeNotAllowed => "Unicode not allowed here"
  | .invalidUtf8 => "pattern can match invalid UTF-8"
  | .unicodePropertyNotFound => "Unicode property not found"
  | .unicodePropertyValueNotFound => "Unicode property value not found"

/-- A refusal: its reason, the stretch of the pattern it points at, and for a repeated name or
flag the stretch of the first occurrence. -/
structure Error where
  kind : ErrorKind
  span : Span
  aux : Option Span := none
  deriving DecidableEq, Repr

end TableMachine.Regex
