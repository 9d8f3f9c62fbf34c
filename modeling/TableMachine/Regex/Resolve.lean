import TableMachine.Regex.Parse
import TableMachine.Regex.Expr

/-!
# Resolving flags

`Ast.resolve` turns a syntax tree into an `Expr`: every literal, dot and class becomes the
characters it accepts, anchors and word boundaries become `Look`s, capturing groups become
captures, and flags disappear into what they change. Flags act from where they stand to the end
of their group, across alternatives; a group restores the flags that held before it. The parts
are put together with the constructors of `Expr`, so the result is in its normal form.

Under `i`, a set is closed under simple case folding before it is negated, and both sides of a
class operation are closed before the operation. With Unicode off (`(?-u)`), classes and case
folding are ASCII, and a pattern refuses whatever could match a byte that is not a character:
`(?-u:.)`, negated ASCII classes, and `\xNN` escapes above `7F`, each refusal pointing at the
part that could. Unicode classes (`\p`) and non-ASCII characters inside brackets are refused
there too.
-/

namespace TableMachine.Regex

/-- The flags in force at a point of a pattern. -/
structure Flags where
  caseInsensitive : Bool := false
  multiLine : Bool := false
  dotAll : Bool := false
  unicode : Bool := true
  crlf : Bool := false
  deriving DecidableEq, Repr

namespace Flags

/-- Sets one flag. -/
def set (f : Flags) (flag : Flag) (on : Bool) : Flags :=
  match flag with
  | .caseInsensitive => { f with caseInsensitive := on }
  | .multiLine => { f with multiLine := on }
  | .dotMatchesNewLine => { f with dotAll := on }
  | .unicode => { f with unicode := on }
  | .crlf => { f with crlf := on }
  | .swapGreed | .ignoreWhitespace => f

/-- Applies a flag list: flags before a minus are set, flags after it cleared. -/
def apply (f : Flags) (items : List FlagItem) : Flags :=
  (items.foldl (fun (st : Flags × Bool) item =>
    match item with
    | .negation => (st.1, false)
    | .flag g => (st.1.set g st.2, st.2)) (f, true)).1

end Flags

/-- The largest byte. -/
def maxByte : Nat := 0xFF

/-- Case folding as the flags ask: simple Unicode folding, or ASCII letters only. -/
def Flags.fold (f : Flags) (s : CharSet) : CharSet :=
  if !f.caseInsensitive then s
  else if f.unicode then s.caseFold
  else s.asciiCaseFold

/-- Negation within the characters (Unicode on) or the bytes (Unicode off). -/
def Flags.negate (f : Flags) (s : CharSet) : CharSet :=
  if f.unicode then s.negate else s.negate.intersect (CharSet.range 0 maxByte)

/-- Folds, then negates if asked, then refuses a byte set that reaches past ASCII. -/
def foldAndNegate (f : Flags) (span : Span) (negated : Bool) (s : CharSet) :
    Except Error CharSet :=
  let folded := f.fold s
  let result := if negated then f.negate folded else folded
  if !f.unicode && !result.isAscii then .error { kind := .invalidUtf8, span } else .ok result

/-- The character a literal stands for, or a refusal of a byte above ASCII. -/
def literalChar (f : Flags) (lit : Literal) : Except Error Char :=
  if !f.unicode && lit.fromHexByte && lit.c.toNat > 0x7F then
    .error { kind := .invalidUtf8, span := lit.span }
  else .ok lit.c

/-- A literal inside brackets. -/
def classLiteral (f : Flags) (lit : Literal) : Except Error Nat := do
  let c ← literalChar f lit
  if !f.unicode && c.toNat > 0x7F then throw { kind := .unicodeNotAllowed, span := lit.span }
  return c.toNat

/-- The set of a `\p` class, folded and negated. -/
def unicodeSet (f : Flags) (q : UnicodeQuery) (negated : Bool) (span : Span) :
    Except Error CharSet := do
  if !f.unicode then throw { kind := .unicodeNotAllowed, span }
  let (found, negated) :=
    match q with
    | .oneLetter c => (namedSet (String.singleton c), negated)
    | .named n => (namedSet n, negated)
    | .valued n v ne => (valuedSet n v, negated != ne)
  match found with
  | .ok s => foldAndNegate f span negated s
  | .error .notFound => throw { kind := .unicodePropertyNotFound, span }
  | .error .valueNotFound => throw { kind := .unicodePropertyValueNotFound, span }

/-- The set of `\d`, `\s` or `\w`; these sets are already closed under folding. -/
def perlSet (f : Flags) (cls : PerlClass) (negated : Bool) (span : Span) :
    Except Error CharSet :=
  if f.unicode then .ok (if negated then cls.unicodeSet.negate else cls.unicodeSet)
  else
    let s := if negated then f.negate cls.asciiSet else cls.asciiSet
    if s.isAscii then .ok s else .error { kind := .invalidUtf8, span }

mutual

/-- The set of one class item. -/
def ClassItem.resolve (f : Flags) : ClassItem → Except Error CharSet
  | .literal lit => do return CharSet.single (← classLiteral f lit)
  | .range lo hi => do return CharSet.range (← classLiteral f lo) (← classLiteral f hi)
  | .ascii name negated span =>
    foldAndNegate f span negated ((asciiClass? name).getD CharSet.empty)
  | .unicode q negated span => unicodeSet f q negated span
  | .perl cls negated span => perlSet f cls negated span
  | .bracketed negated set span => do foldAndNegate f span negated (← set.resolve f)

/-- The set of a class's contents. -/
def ClassSet.resolve (f : Flags) : ClassSet → Except Error CharSet
  | .union items _ => ClassItem.resolveAll f items
  | .intersection l r _ => do return (f.fold (← l.resolve f)).intersect (f.fold (← r.resolve f))
  | .difference l r _ => do return (f.fold (← l.resolve f)).difference (f.fold (← r.resolve f))
  | .symmetricDifference l r _ => do
    return (f.fold (← l.resolve f)).symmDiff (f.fold (← r.resolve f))

/-- The union of the sets of some items. -/
def ClassItem.resolveAll (f : Flags) : List ClassItem → Except Error CharSet
  | [] => .ok CharSet.empty
  | i :: rest => do return (← i.resolve f).union (← ClassItem.resolveAll f rest)

end

/-- The look of an assertion under the flags. -/
def Flags.look (f : Flags) : Assertion → Look
  | .startLine => if f.multiLine then (if f.crlf then .startLineCrlf else .startLine) else .start
  | .endLine => if f.multiLine then (if f.crlf then .endLineCrlf else .endLine) else .finish
  | .startText => .start
  | .endText => .finish
  | .wordBoundary => .word f.unicode
  | .notWordBoundary => .notWord f.unicode
  | .wordStart => .wordStart f.unicode
  | .wordEnd => .wordEnd f.unicode
  | .wordStartHalf => .wordStartHalf f.unicode
  | .wordEndHalf => .wordEndHalf f.unicode

/-- The set of `.`. -/
def Flags.dot (f : Flags) (span : Span) : Except Error CharSet :=
  if !f.unicode then .error { kind := .invalidUtf8, span }
  else if f.dotAll then .ok CharSet.full
  else if f.crlf then .ok (CharSet.normalize [(10, 10), (13, 13)]).negate
  else .ok (CharSet.single 10).negate

/-- A literal outside brackets: the character, or under `i` its case-folding class. -/
def Flags.literal (f : Flags) (lit : Literal) : Except Error Expr := do
  let c ← literalChar f lit
  if f.caseInsensitive && (f.unicode || c.toNat ≤ 0x7F) then
    return Expr.ofSet (f.fold (CharSet.single c.toNat))
  else return Expr.ofChars [c]

mutual

/-- Resolves a tree under the flags in force; also returns the flags in force after it. -/
def Ast.resolveWith (f : Flags) : Ast → Except Error (Expr × Flags)
  | .empty _ => .ok (.empty, f)
  | .flags items _ => .ok (.empty, f.apply items)
  | .literal lit => do return (← f.literal lit, f)
  | .dot span => do return (Expr.ofSet (← f.dot span), f)
  | .assertion a _ => .ok (.look (f.look a), f)
  | .unicode q negated span => do return (Expr.ofSet (← unicodeSet f q negated span), f)
  | .perl cls negated span => do return (Expr.ofSet (← perlSet f cls negated span), f)
  | .bracketed negated set span => do
    return (Expr.ofSet (← foldAndNegate f span negated (← set.resolve f)), f)
  | .repetition body min max _ => do
    let (e, g) ← body.resolveWith f
    return (Expr.repOf e min max, g)
  | .group (.capture index name) body _ => do
    let (e, _) ← body.resolveWith f
    return (.capture index name e, f)
  | .group (.nonCapturing items) body _ => do
    let (e, _) ← body.resolveWith (f.apply items)
    return (e, f)
  | .alternation branches _ => do
    let (es, g) ← Ast.resolveAll f branches
    return (Expr.altOf es, g)
  | .concat items _ => do
    let (es, g) ← Ast.resolveAll f items
    return (Expr.seqOf es, g)

/-- Resolves trees in order, threading the flags. -/
def Ast.resolveAll (f : Flags) : List Ast → Except Error (List Expr × Flags)
  | [] => .ok ([], f)
  | a :: rest => do
    let (e, g) ← a.resolveWith f
    let (es, h) ← Ast.resolveAll g rest
    return (e :: es, h)

end

/-- Resolves a whole pattern under its starting flags. -/
def Ast.resolve (f : Flags) (a : Ast) : Except Error Expr :=
  (a.resolveWith f).map (·.1)

end TableMachine.Regex
