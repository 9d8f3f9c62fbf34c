import TableMachine.Regex.Expr

/-!
# Matching programs

A resolved pattern is compiled into a `Program`: an array of nodes, each of which reads one
character from a set, tests a `Look`, jumps, splits into two, or accepts. `Program.search` says
whether the pattern matches anywhere in a text. It runs all threads of the program in lock step
over the text (one set of live nodes per position, each node at most once), so it takes time
linear in the text and never backtracks.

Counted repetitions are unrolled: `e{2,4}` becomes `e e e? e?` (nested, so that the optional
copies are tried in order) and `e{2,}` becomes `e e e*`.
-/

namespace TableMachine.Regex

open TableMachine.Unicode

/-- One instruction of a program. -/
inductive Node where
  | chars (set : InversionList) (next : Nat)
  | look (l : Look) (next : Nat)
  | split (first second : Nat)
  | jump (next : Nat)
  | accept
  deriving Inhabited

/-- A program: nodes and the index of the first. -/
structure Program where
  nodes : Array Node
  start : Nat

/-- Whether a look holds between `before` and `after` (`none` at either end of the text). -/
def Look.holds (l : Look) (before after : Option Char) : Bool :=
  let isWord := fun (u : Bool) (c : Option Char) =>
    match c with
    | none => false
    | some c => if u then isWordChar c else isAsciiWordChar c
  match l with
  | .start => before.isNone
  | .finish => after.isNone
  | .startLine => before.isNone || before = some '\n'
  | .endLine => after.isNone || after = some '\n'
  | .startLineCrlf =>
    before.isNone || before = some '\n' || (before = some '\r' && after != some '\n')
  | .endLineCrlf =>
    after.isNone || after = some '\r' || (after = some '\n' && before != some '\r')
  | .word u => isWord u before != isWord u after
  | .notWord u => isWord u before == isWord u after
  | .wordStart u => !isWord u before && isWord u after
  | .wordEnd u => isWord u before && !isWord u after
  | .wordStartHalf u => !isWord u before
  | .wordEndHalf u => !isWord u after

namespace Program

/-- Appends a node; returns its index. -/
def push (nodes : Array Node) (n : Node) : Nat × Array Node := (nodes.size, nodes.push n)

/-- A compiler of one piece: given the nodes so far and where to continue, the new nodes and
the piece's entry. -/
abbrev Piece := Array Node → Nat → Nat × Array Node

/-- `count` required copies of a piece in front of `next`. -/
def copies (piece : Piece) (nodes : Array Node) (next : Nat) : Nat → Nat × Array Node
  | 0 => (next, nodes)
  | k + 1 =>
    let (after, nodes) := copies piece nodes next k
    piece nodes after

/-- `count` nested optional copies of a piece in front of `next`. -/
def optionals (piece : Piece) (nodes : Array Node) (next : Nat) : Nat → Nat × Array Node
  | 0 => (next, nodes)
  | k + 1 =>
    let (rest, nodes) := optionals piece nodes next k
    let (entry, nodes) := piece nodes rest
    push nodes (.split entry next)

/-- A piece repeated without bound in front of `next`. -/
def loop (piece : Piece) (nodes : Array Node) (next : Nat) : Nat × Array Node :=
  let (at_, nodes) := push nodes (.split 0 0)
  let (entry, nodes) := piece nodes at_
  (at_, nodes.set! at_ (.split entry next))

/-- Compiles the characters of a literal in sequence, the last one first. -/
def compileText (nodes : Array Node) (next : Nat) : List Char → Nat × Array Node
  | [] => (next, nodes)
  | c :: rest =>
    let (after, nodes) := compileText nodes next rest
    push nodes (.chars (CharSet.single c.toNat).toInversionList after)

mutual

/-- Compiles `e` so that it continues at `next`; returns the index of its entry. -/
def compileExpr (nodes : Array Node) (next : Nat) : Expr → Nat × Array Node
  | .empty => (next, nodes)
  | .literal cs => compileText nodes next cs
  | .chars s => push nodes (.chars s.toInversionList next)
  | .look l => push nodes (.look l next)
  | .capture _ _ body => compileExpr nodes next body
  | .seq items => compileSeq nodes next items
  | .alt branches => compileAlt nodes next branches
  | .rep body min max =>
    let piece : Piece := fun nodes next => compileExpr nodes next body
    -- the optional or looping tail first, then the required copies in front of it
    let (tail, nodes) :=
      match max with
      | none => loop piece nodes next
      | some m => optionals piece nodes next (m - min)
    copies piece nodes tail min

/-- Compiles items in sequence, the last one first. -/
def compileSeq (nodes : Array Node) (next : Nat) : List Expr → Nat × Array Node
  | [] => (next, nodes)
  | e :: rest =>
    let (after, nodes) := compileSeq nodes next rest
    compileExpr nodes after e

/-- Compiles alternatives, each continuing at `next`, tried in order. -/
def compileAlt (nodes : Array Node) (next : Nat) : List Expr → Nat × Array Node
  | [] => push nodes (.chars ⟨#[]⟩ next)
  | [e] => compileExpr nodes next e
  | e :: rest =>
    let (second, nodes) := compileAlt nodes next rest
    let (first, nodes) := compileExpr nodes next e
    push nodes (.split first second)

end

/-- Compiles a resolved pattern. -/
def ofExpr (e : Expr) : Program :=
  let (acceptAt, nodes) := push #[] .accept
  let (start, nodes) := compileExpr nodes acceptAt e
  ⟨nodes, start⟩

/-- Follows jumps, splits and looks from `pending` between `before` and `after`: the character
nodes reached, in order, and whether an accepting node was reached. Each node is entered once;
`fuel` counts the entries. -/
def closure (p : Program) (before after : Option Char) :
    Nat → List Nat → Array Bool → List Nat → Bool → List Nat × Bool
  | 0, _, _, found, accepted => (found.reverse, accepted)
  | _ + 1, [], _, found, accepted => (found.reverse, accepted)
  | fuel + 1, i :: pending, seen, found, accepted =>
    if seen.getD i true then closure p before after fuel pending seen found accepted
    else
      let seen := seen.set! i true
      match (p.nodes[i]? : Option Node) with
      | some (.chars ..) => closure p before after fuel pending seen (i :: found) accepted
      | some .accept => closure p before after fuel pending seen found true
      | some (.jump j) => closure p before after fuel (j :: pending) seen found accepted
      | some (.split a b) => closure p before after fuel (a :: b :: pending) seen found accepted
      | some (.look l j) =>
        if l.holds before after then closure p before after fuel (j :: pending) seen found accepted
        else closure p before after fuel pending seen found accepted
      | none => closure p before after fuel pending seen found accepted

/-- The nodes live at a position, given the nodes stepped into it. -/
def live (p : Program) (before after : Option Char) (entered : List Nat) : List Nat × Bool :=
  let targets := entered ++ [p.start]
  closure p before after (targets.length + 2 * p.nodes.size + 1) targets
    (Array.replicate p.nodes.size false) [] false

/-- The nodes that read `c` from the live nodes `states`. -/
def step (p : Program) (states : List Nat) (c : Char) : List Nat :=
  states.filterMap fun i =>
    match (p.nodes[i]? : Option Node) with
    | some (.chars s n) => if s.contains c.toNat then some n else none
    | _ => none

/-- Runs the program over the rest of a text, a new thread starting at every position. -/
def run (p : Program) (before : Option Char) : List Char → List Nat → Bool
  | [], entered => (p.live before none entered).2
  | c :: rest, entered =>
    let (states, accepted) := p.live before (some c) entered
    accepted || run p (some c) rest (p.step states c)

/-- Whether the program matches somewhere in `text`. -/
def search (p : Program) (text : String) : Bool := p.run none text.toList []

end Program

end TableMachine.Regex
