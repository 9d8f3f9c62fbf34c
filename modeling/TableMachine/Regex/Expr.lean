import TableMachine.Regex.CharSet

/-!
# Resolved patterns

An `Expr` is a pattern with its flags resolved: every literal, dot and class is a run of
characters or a set of them, anchors and word boundaries are `Look`s, and groups that only set
flags are gone. Expressions are built only through the constructors below, which keep a normal
form, the one that decides how large the compiled automaton is (`Regex.Size`):

* a class of one character is that character as a literal, and a class without characters is
  the expression that never matches (`Expr.never`);
* a concatenation has no empty items and no nested concatenations, and adjacent literals are
  joined into one;
* an alternation has no nested alternations; one whose branches are all single characters, or
  all classes, is the union class; otherwise the longest run of items that every branch begins
  with is taken out in front (`a b c | a b d` becomes `a b (c | d)`);
* a repetition of something that can only match the empty text repeats at most once, `e{0}` is
  the empty expression, and `e{1}` is `e`.

Surrogate code points are never members of a class here, since no text can hold them.

`Expr.minLen` and `Expr.maxLen` bound the UTF-8 length of a match (`none` for no match at all,
and for `maxLen` also for no bound), and `Expr.startAnchored` and `Expr.endAnchored` say whether
every match must begin at the start of the text, or end at its end.
-/

namespace TableMachine.Regex

/-- Zero-width tests between two characters. `unicode` chooses the word characters: `\w` under
Unicode rules or ASCII `[0-9A-Za-z_]`. -/
inductive Look where
  | start
  | finish
  | startLine
  | endLine
  | startLineCrlf
  | endLineCrlf
  | word (unicode : Bool)
  | notWord (unicode : Bool)
  | wordStart (unicode : Bool)
  | wordEnd (unicode : Bool)
  | wordStartHalf (unicode : Bool)
  | wordEndHalf (unicode : Bool)
  deriving DecidableEq, Repr, BEq

/-- Whether a look tests for word characters under Unicode rules. -/
def Look.unicodeWord : Look → Bool
  | .word u | .notWord u | .wordStart u | .wordEnd u | .wordStartHalf u | .wordEndHalf u => u
  | _ => false

/-- A resolved pattern. -/
inductive Expr where
  | empty
  | literal (text : List Char)
  | chars (set : CharSet)
  | look (l : Look)
  | rep (body : Expr) (min : Nat) (max : Option Nat)
  | capture (index : Nat) (name : Option String) (body : Expr)
  | seq (items : List Expr)
  | alt (branches : List Expr)
  deriving Repr, Inhabited, BEq

namespace Expr

/-! ## Normal form -/

/-- The surrogate code points, which no text holds. -/
def surrogates : CharSet := CharSet.range 0xD800 0xDFFF

/-- The expression that never matches: the class without characters. -/
def never : Expr := .chars CharSet.empty

/-- A literal; no characters make the empty expression. -/
def ofChars (cs : List Char) : Expr := if cs.isEmpty then .empty else .literal cs

/-- A class, without surrogates; a class of one character is that character. -/
def ofSet (s : CharSet) : Expr :=
  let s := s.difference surrogates
  match s.ranges with
  | [(a, b)] => if a = b then .literal [Char.ofNat a] else .chars s
  | _ => .chars s

/-- Joins adjacent literals of a list. -/
def joinLiterals : List Expr → List Expr
  | .literal a :: .literal b :: rest => joinLiterals (.literal (a ++ b) :: rest)
  | e :: rest => e :: joinLiterals rest
  | [] => []
termination_by l => l.length

/-- The concatenation of some expressions. -/
def seqOf (items : List Expr) : Expr :=
  let flat := items.flatMap fun e =>
    match e with
    | .seq xs => xs
    | .empty => []
    | e => [e]
  match joinLiterals flat with
  | [] => .empty
  | [e] => e
  | es => .seq es

/-- The characters of branches that are all single characters. -/
def singleChars : List Expr → Option (List Char)
  | [] => some []
  | .literal [c] :: rest => (singleChars rest).map (c :: ·)
  | _ => none

/-- The union of branches that are all classes. -/
def unionOfClasses : List Expr → Option CharSet
  | [] => some CharSet.empty
  | .chars s :: rest => (unionOfClasses rest).map s.union
  | _ => none

/-- The items of branches that are all concatenations. -/
def seqItems : List Expr → Option (List (List Expr))
  | [] => some []
  | .seq xs :: rest => (seqItems rest).map (xs :: ·)
  | _ => none

/-- The longest common prefix of two lists of expressions. -/
def commonPrefix : List Expr → List Expr → List Expr
  | x :: xs, y :: ys => if x == y then x :: commonPrefix xs ys else []
  | _, _ => []

mutual

/-- The number of nodes of an expression, which bounds how often an alternation can be
rebuilt around a common prefix. -/
def weight : Expr → Nat
  | .rep body _ _ | .capture _ _ body => weight body + 1
  | .seq items | .alt items => weightAll items + 1
  | _ => 1

/-- The number of nodes of some expressions. -/
def weightAll : List Expr → Nat
  | [] => 0
  | e :: rest => weight e + weightAll rest

end

/-- Alternation with `fuel` rounds of taking out common prefixes. -/
def altWith : Nat → List Expr → Expr
  | fuel, branches =>
    let flat := branches.flatMap fun e =>
      match e with
      | .alt xs => xs
      | e => [e]
    match flat with
    | [] => never
    | [e] => e
    | first :: rest =>
      match singleChars flat with
      | some cs => ofSet (CharSet.normalize (cs.map fun c => (c.toNat, c.toNat)))
      | none =>
        match unionOfClasses flat with
        | some s => ofSet s
        | none =>
          match fuel, seqItems flat with
          | fuel + 1, some seqs =>
            let shared := (seqs.drop 1).foldl commonPrefix (seqs.headD [])
            if shared.isEmpty then .alt (first :: rest)
            else
              let suffixes := seqs.map fun xs => seqOf (xs.drop shared.length)
              seqOf (shared ++ [altWith fuel suffixes])
          | _, _ => .alt (first :: rest)

/-- The alternation of some expressions. -/
def altOf (branches : List Expr) : Expr :=
  altWith (weightAll branches + 1) branches

/-! ## Looks -/

mutual

/-- Whether some look of the expression satisfies `p`. -/
def anyLook (p : Look → Bool) : Expr → Bool
  | .look l => p l
  | .rep body _ _ | .capture _ _ body => anyLook p body
  | .seq items | .alt items => anyLookAll p items
  | _ => false

/-- Whether some look of some of the expressions satisfies `p`. -/
def anyLookAll (p : Look → Bool) : List Expr → Bool
  | [] => false
  | e :: rest => anyLook p e || anyLookAll p rest

end

/-! ## Lengths and anchors -/

/-- The UTF-8 length of a code point's encoding. -/
def utf8Length (c : Nat) : Nat :=
  if c < 0x80 then 1 else if c < 0x800 then 2 else if c < 0x10000 then 3 else 4

/-- Combines two optional bounds, `none` absorbing. -/
def bothWith (f : Nat → Nat → Nat) : Option Nat → Option Nat → Option Nat
  | some a, some b => some (f a b)
  | _, _ => none

/-- The UTF-8 length of a literal. -/
def literalLength (cs : List Char) : Nat := (cs.map fun c => utf8Length c.toNat).foldr (· + ·) 0

mutual

/-- The shortest UTF-8 length of a match; `none` if nothing matches. -/
def minLen : Expr → Option Nat
  | .empty | .look _ => some 0
  | .literal cs => some (literalLength cs)
  | .chars s => s.ranges.head?.map fun (a, _) => utf8Length a
  | .rep body min _ => (minLen body).map (· * min)
  | .capture _ _ body => minLen body
  | .seq items => minLenSum items
  | .alt [] => none
  | .alt (b :: bs) => minLenLeast (minLen b) bs

/-- The shortest length of a concatenation. -/
def minLenSum : List Expr → Option Nat
  | [] => some 0
  | e :: rest => bothWith (· + ·) (minLen e) (minLenSum rest)

/-- The shortest length of the remaining branches of an alternation, `acc` so far. -/
def minLenLeast (acc : Option Nat) : List Expr → Option Nat
  | [] => acc
  | e :: rest => minLenLeast (bothWith Nat.min acc (minLen e)) rest

end

mutual

/-- The longest UTF-8 length of a match; `none` if unbounded or if nothing matches. -/
def maxLen : Expr → Option Nat
  | .empty | .look _ => some 0
  | .literal cs => some (literalLength cs)
  | .chars s => s.ranges.getLast?.map fun (_, b) => utf8Length b
  | .rep body _ max => max.bind fun m => (maxLen body).map (· * m)
  | .capture _ _ body => maxLen body
  | .seq items => maxLenSum items
  | .alt [] => none
  | .alt (b :: bs) => maxLenGreatest (maxLen b) bs

/-- The longest length of a concatenation. -/
def maxLenSum : List Expr → Option Nat
  | [] => some 0
  | e :: rest => bothWith (· + ·) (maxLen e) (maxLenSum rest)

/-- The longest length of the remaining branches of an alternation, `acc` so far. -/
def maxLenGreatest (acc : Option Nat) : List Expr → Option Nat
  | [] => acc
  | e :: rest => maxLenGreatest (bothWith Nat.max acc (maxLen e)) rest

end

mutual

/-- Whether every match must begin at the start of the text: the expression opens with `\A`
(or `^` outside multi-line mode), possibly after parts that match only the empty text. -/
def startAnchored : Expr → Bool
  | .look l => l == .start
  | .rep body min _ => 0 < min && startAnchored body
  | .capture _ _ body => startAnchored body
  | .seq items => startAnchoredLeading items
  | .alt branches => !branches.isEmpty && startAnchoredAll branches
  | _ => false

/-- The anchor among the leading items, up to the first that can match more than nothing. -/
def startAnchoredLeading : List Expr → Bool
  | [] => false
  | e :: rest => startAnchored e || (maxLen e == some 0 && startAnchoredLeading rest)

/-- Whether all branches are anchored at the start. -/
def startAnchoredAll : List Expr → Bool
  | [] => true
  | e :: rest => startAnchored e && startAnchoredAll rest

end

mutual

/-- Whether every match must end at the end of the text, symmetrically. -/
def endAnchored : Expr → Bool
  | .look l => l == .finish
  | .rep body min _ => 0 < min && endAnchored body
  | .capture _ _ body => endAnchored body
  | .seq items => (endAnchoredTrailing items).1
  | .alt branches => !branches.isEmpty && endAnchoredAll branches
  | _ => false

/-- Reading items from the last: whether an anchor comes before the first item that can match
more than nothing, and whether all of them match only the empty text. -/
def endAnchoredTrailing : List Expr → Bool × Bool
  | [] => (false, true)
  | e :: rest =>
    let (anchored, silent) := endAnchoredTrailing rest
    (anchored || (silent && endAnchored e), silent && maxLen e == some 0)

/-- Whether all branches are anchored at the end. -/
def endAnchoredAll : List Expr → Bool
  | [] => true
  | e :: rest => endAnchored e && endAnchoredAll rest

end

/-- A repetition: a body that only matches the empty text repeats at most once, `{0}` is the
empty expression and `{1}` the body itself. -/
def repOf (body : Expr) (min : Nat) (max : Option Nat) : Expr :=
  let (min, max) :=
    if maxLen body == some 0 then (Nat.min min 1, some ((max.map (Nat.min · 1)).getD 1))
    else (min, max)
  if min = 0 ∧ max = some 0 then .empty
  else if min = 1 ∧ max = some 1 then body
  else .rep body min max

end Expr

end TableMachine.Regex
