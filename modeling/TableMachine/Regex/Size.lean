import TableMachine.Regex.Expr
import TableMachine.Regex.Utf8
import Std.Data.HashMap

/-!
# The size of a compiled pattern

A pattern is refused when the automata it compiles to are too large. It is compiled twice: once
forwards, with a pair of capture states around every capture, and once backwards, without them.
Each automaton is a list of states over bytes, built in a fixed order, and is measured in bytes:
every state takes 32, every transition of a state that reads one of several byte ranges 8 more,
and every alternative of a union 4 more. The pattern is refused as soon as either total passes
the limit.

The states are those of a Thompson automaton:

* a literal reads one byte per state, and an ASCII class is one state reading its ranges plus an
  empty exit state;
* a wider class reads UTF-8: forwards, its byte-range sequences (`Utf8.sequences`) are merged
  into a trie whose equal tails are shared through a cache of 10000 slots; backwards, each
  sequence is a chain of byte states ending at a common exit, equal chain ends being shared
  through a cache of 1000 slots. Both caches are direct-mapped, a slot being chosen by the
  FNV-1a hash of the key, so that a later key can evict an earlier one; the keys name states by
  number, which is why states are counted in the order they are made;
* an alternation of literals only is one trie of their bytes; any other alternation is a union
  of its compiled branches;
* `e*`, `e+`, `e?` and counted repetitions repeat the compiled body as often as they must, with
  unions between the copies;
* the automaton starts with a loop over any byte, unless every match must begin at the start of
  the text (for the backward one: end at its end), and finishes with capture states around the
  whole and a match state.

Every copy of a body adds at least one state, so a measurement that passes the limit stops
after at most `limit / 32` states, however large the counts of a pattern are.
-/

namespace TableMachine.Regex.Size

open Utf8

/-- Bytes each state takes. -/
def stateBytes : Nat := 32

/-- Bytes each transition of a state reading one of several byte ranges adds. -/
def transitionBytes : Nat := 8

/-- Bytes each alternative of a union adds. -/
def alternativeBytes : Nat := 4

/-- The states made so far, and the bytes they take, against the limit. -/
structure Tally where
  limit : Nat
  states : Nat := 0
  bytes : Nat := 0

/-- Building an automaton: the tally, stopped once the bytes pass the limit. -/
abbrev Build := StateT Tally (Except Unit)

/-- Adds `extra` bytes, stopping once the total passes the limit. -/
def charge (extra : Nat) : Build Unit := do
  let t ← get
  let bytes := t.bytes + extra
  set { t with bytes }
  if t.limit < bytes then throw ()

/-- Makes a state that takes `extra` bytes beyond its own; returns its number. -/
def addState (extra : Nat) : Build Nat := do
  let t ← get
  set { t with states := t.states + 1 }
  charge (stateBytes + extra)
  return t.states

/-- Gives a union one more alternative. -/
def addAlternative : Build Unit := charge alternativeBytes

/-- A compiled part: its entry and exit states, and whether the exit is a union, which grows
by an alternative when it is joined to what follows. -/
structure Piece where
  entry : Nat
  exit : Nat
  exitIsUnion : Bool

/-- Joins a piece's exit to the state that follows it. -/
def Piece.join (p : Piece) : Build Unit := if p.exitIsUnion then addAlternative else pure ()

/-- A single state that is its own entry and exit. -/
def single (isUnion : Bool) (extra : Nat) : Build Piece := do
  let s ← addState extra
  return ⟨s, s, isUnion⟩

/-! ## Classes -/

/-- One state reading some byte ranges, with an empty exit state made first. -/
def sparseClass (ranges : Nat) : Build Piece := do
  let exit ← addState 0
  let entry ← addState (transitionBytes * ranges)
  return ⟨entry, exit, false⟩

/-- A transition of a byte-reading state. -/
structure Transition where
  lo : Nat
  hi : Nat
  next : Nat
  deriving DecidableEq, BEq

/-- The FNV-1a offset basis. -/
def fnvOffset : UInt64 := 14695981039346656037

/-- The FNV-1a prime. -/
def fnvPrime : UInt64 := 1099511628211

/-- One FNV-1a step on a number. -/
def fnvStep (h : UInt64) (x : Nat) : UInt64 := (h ^^^ x.toUInt64) * fnvPrime

/-- The slots of the cache of trie states. -/
def stateSlots : Nat := 10000

/-- The slot of a trie state, by its transitions. -/
def stateSlot (ts : List Transition) : Nat :=
  (ts.foldl (fun h t => fnvStep (fnvStep (fnvStep h t.lo) t.hi) t.next) fnvOffset).toNat % stateSlots

/-- A trie state still open: the transitions fixed so far and the range of the last one, whose
target is not known yet. -/
structure Open where
  transitions : List Transition
  last : Option ByteRange

/-- The transitions of an open state once its last one leads to `next`. -/
def Open.close (o : Open) (next : Nat) : List Transition :=
  o.transitions ++ (o.last.map fun r => [⟨r.lo, r.hi, next⟩]).getD []

/-- The forward UTF-8 trie being built: its exit state, the open states from the root down, and
the cache of made states by slot. -/
structure Utf8Trie where
  exit : Nat
  opened : Array Open
  cache : Std.HashMap Nat (List Transition × Nat)

namespace Utf8Trie

/-- The state with these transitions: the cached one if its slot holds it, else a new one. -/
def make (u : Utf8Trie) (ts : List Transition) : Build (Nat × Utf8Trie) := do
  let slot := stateSlot ts
  if let some (key, s) := u.cache[slot]? then
    if key == ts then return (s, u)
  let s ← addState (transitionBytes * ts.length)
  return (s, { u with cache := u.cache.insert slot (ts, s) })

/-- Closes the top open state with `next` as its last target. -/
def closeTop (u : Utf8Trie) (next : Nat) : Utf8Trie :=
  match u.opened.back? with
  | some o => { u with opened := u.opened.pop.push ⟨o.close next, none⟩ }
  | none => u

/-- Makes the open states deeper than `keep + 1` levels, from the deepest up, each leading to
the one made before it (the deepest to the exit), then closes the state at level `keep`. -/
def makeFrom (keep : Nat) : Nat → Nat → Utf8Trie → Build Utf8Trie
  | 0, next, u => return u.closeTop next
  | fuel + 1, next, u =>
    match u.opened.back? with
    | some o =>
      if keep + 1 < u.opened.size then do
        let (s, u) ← make { u with opened := u.opened.pop } (o.close next)
        makeFrom keep fuel s u
      else return u.closeTop next
    | none => return u

/-- The number of leading ranges that the open states already hold as their last ranges. -/
def sharedLength (u : Utf8Trie) (seq : List ByteRange) : Nat :=
  ((seq.zip u.opened.toList).takeWhile fun (r, o) => o.last == some r).length

/-- Adds a byte-range sequence, greater than every one added before. -/
def add (u : Utf8Trie) (seq : List ByteRange) : Build Utf8Trie := do
  let keep := u.sharedLength seq
  let u ← makeFrom keep u.opened.size u.exit u
  match seq.drop keep with
  | [] => return u
  | r :: rest =>
    let opened := match u.opened.back? with
      | some o => u.opened.pop.push { o with last := some r }
      | none => u.opened
    return { u with opened := rest.foldl (fun acc r => acc.push ⟨[], some r⟩) opened }

/-- Makes every state still open; returns the root. -/
def finish (u : Utf8Trie) : Build Nat := do
  let u ← makeFrom 0 u.opened.size u.exit u
  let root := (u.opened[0]?.map (·.transitions)).getD []
  let (s, _) ← u.make root
  return s

end Utf8Trie

/-- A class read forwards as UTF-8: its exit state, then the merged trie of its sequences. -/
def forwardClass (ranges : List (Nat × Nat)) : Build Piece := do
  let exit ← addState 0
  let mut u : Utf8Trie := ⟨exit, #[⟨[], none⟩], {}⟩
  for (lo, hi) in ranges do
    for seq in sequences lo hi do
      u ← u.add seq
  let entry ← u.finish
  return ⟨entry, exit, false⟩

/-- The slots of the cache of chain ends. -/
def chainSlots : Nat := 1000

/-- The slot of a chain end: the state it leads to and its byte range. -/
def chainSlot (next lo hi : Nat) : Nat := (fnvStep (fnvStep (fnvStep fnvOffset next) lo) hi).toNat % chainSlots

/-- The cache of chain ends, by slot: the key and the state made for it. -/
abbrev ChainCache := Std.HashMap Nat ((Nat × Nat × Nat) × Nat)

/-- Builds a sequence's chain backwards from the state `next`: each range becomes a state
leading to the one before it, unless its slot already holds that state. Returns the chain's
first state. -/
def chain (cache : ChainCache) (next : Nat) : List ByteRange → Build (Nat × ChainCache)
  | [] => return (next, cache)
  | r :: rest => do
    let key := (next, r.lo, r.hi)
    let slot := chainSlot next r.lo r.hi
    if let some (k, s) := cache[slot]? then
      if k == key then return ← chain cache s rest
    let s ← addState 0
    chain (cache.insert slot (key, s)) s rest

/-- A class read backwards as UTF-8: a union of one chain per sequence, all ending at one exit. -/
def reverseClass (ranges : List (Nat × Nat)) : Build Piece := do
  let union ← addState 0
  let exit ← addState 0
  let mut cache : ChainCache := {}
  for (lo, hi) in ranges do
    for seq in sequences lo hi do
      let (_, cache') ← chain cache exit seq
      cache := cache'
      addAlternative
  return ⟨union, exit, false⟩

/-- A class in either direction. -/
def classPiece (reverse : Bool) (s : CharSet) : Build Piece :=
  if s.isAscii then sparseClass s.ranges.length
  else if reverse then reverseClass s.ranges
  else forwardClass s.ranges

/-! ## Alternations of literals -/

/-- A state of a trie of literals: its transitions by byte, and the chunks they fall into. A
chunk ends where a literal ends, so that shorter literals are tried before the transitions
added after them; the transitions after the last chunk form the active chunk. -/
structure LiteralNode where
  transitions : List (Nat × Nat) := []
  chunks : List (Nat × Nat) := []
  deriving Inhabited

namespace LiteralNode

/-- Where the active chunk begins. -/
def activeStart (n : LiteralNode) : Nat := (n.chunks.getLast?.map (·.2)).getD 0

/-- The transitions of each chunk, the active one last. -/
def chunkList (n : LiteralNode) : List (List (Nat × Nat)) :=
  let slice := fun (a b : Nat) => (n.transitions.drop a).take (b - a)
  n.chunks.map (fun (a, b) => slice a b) ++ [n.transitions.drop n.activeStart]

/-- Marks the end of a literal here. -/
def markEnd (n : LiteralNode) : LiteralNode :=
  if n.transitions.isEmpty && !n.chunks.isEmpty then n
  else { n with chunks := n.chunks ++ [(n.activeStart, n.transitions.length)] }

end LiteralNode

/-- Follows or adds the transition on `byte` from node `at_` within its active chunk, which is
kept sorted by byte. -/
def stepTrie (nodes : Array LiteralNode) (at_ byte : Nat) : Array LiteralNode × Nat :=
  let n := nodes.getD at_ {}
  let active := n.transitions.drop n.activeStart
  match active.find? (·.1 == byte) with
  | some (_, next) => (nodes, next)
  | none =>
    let next := nodes.size
    let pos := n.activeStart + (active.filter (·.1 < byte)).length
    let transitions := n.transitions.take pos ++ [(byte, next)] ++ n.transitions.drop pos
    ((nodes.setIfInBounds at_ { n with transitions }).push {}, next)

/-- Adds a literal's bytes to a trie. -/
def insertLiteral (nodes : Array LiteralNode) (bytes : List Nat) : Array LiteralNode :=
  let (nodes, last) := bytes.foldl (fun (acc : Array LiteralNode × Nat) b => stepTrie acc.1 acc.2 b) (nodes, 0)
  nodes.modify last LiteralNode.markEnd

/-- Makes the states of the trie below node `at_`, depth first; every node becomes a union of
one state per chunk (a single byte state or a several-range state) and, from the second chunk
on, the way out. Returns the node's union. -/
def makeTrie (nodes : Array LiteralNode) : Nat → Nat → Build Nat
  | 0, _ => addState 0
  | fuel + 1, at_ => do
    let n := nodes.getD at_ {}
    let mut alternatives := 0
    let mut first := true
    for chunk in n.chunkList do
      if !first then alternatives := alternatives + 1
      first := false
      for (_, next) in chunk do
        if !((nodes.getD next {}).transitions.isEmpty) then
          discard (makeTrie nodes fuel next)
      if chunk.length == 1 then
        let _ ← addState 0
        alternatives := alternatives + 1
      else if 1 < chunk.length then
        let _ ← addState (transitionBytes * chunk.length)
        alternatives := alternatives + 1
    addState (alternativeBytes * alternatives)

/-- An alternation of literals: an empty exit state, then the trie of their bytes (read from the
end when building backwards). -/
def literalTrie (reverse : Bool) (literals : List (List Char)) : Build Piece := do
  let exit ← addState 0
  let bytes := literals.map fun cs =>
    let bs := cs.flatMap fun c => encode c.toNat
    if reverse then bs.reverse else bs
  let nodes := bytes.foldl insertLiteral #[{}]
  let entry ← makeTrie nodes (nodes.size + 1) 0
  return ⟨entry, exit, false⟩

/-- The texts of branches that are all literals. -/
def literalsOf : List Expr → Option (List (List Char))
  | [] => some []
  | .literal cs :: rest => (literalsOf rest).map (cs :: ·)
  | _ => none

/-! ## Combinators -/

/-- Copies of a piece after `acc`, each joined to the one before. -/
def repeatJoin (c : Build Piece) (acc : Piece) : Nat → Build Piece
  | 0 => return acc
  | k + 1 => do
    let q ← c
    acc.join
    repeatJoin c ⟨acc.entry, q.exit, q.exitIsUnion⟩ k

/-- Exactly `n` copies of a piece in sequence; none is one empty state. -/
def exactly (c : Build Piece) : Nat → Build Piece
  | 0 => single false 0
  | n + 1 => do
    let p ← c
    repeatJoin c p n

/-- Pieces in sequence. -/
def concat : List (Build Piece) → Build Piece
  | [] => single false 0
  | c :: rest => do
    let p ← c
    let mut acc := p
    for c in rest do
      let q ← c
      acc.join
      acc := ⟨acc.entry, q.exit, q.exitIsUnion⟩
    return acc

/-- A union of pieces: the first two are made before the union and its exit, the rest after. -/
def union : List (Build Piece) → Build Piece
  | [] => single false 0
  | [c] => c
  | c1 :: c2 :: rest => do
    let p1 ← c1
    let p2 ← c2
    let u ← addState 0
    let e ← addState 0
    addAlternative
    p1.join
    addAlternative
    p2.join
    for c in rest do
      let q ← c
      addAlternative
      q.join
    return ⟨u, e, false⟩

/-- `e?`: a union before the piece and an empty exit after it. -/
def zeroOrOne (c : Build Piece) : Build Piece := do
  let u ← addState 0
  let q ← c
  let e ← addState 0
  addAlternative
  addAlternative
  q.join
  return ⟨u, e, false⟩

/-- Optional copies after `prev`, each behind a union that can skip to the common exit. -/
def optionalCopies (c : Build Piece) (prev : Piece) : Nat → Build Piece
  | 0 => return prev
  | k + 1 => do
    let _ ← addState 0
    let q ← c
    prev.join
    addAlternative
    addAlternative
    optionalCopies c q k

/-- `e{min,max}` for `min < max`: the required copies, an empty exit, then the optional copies. -/
def bounded (c : Build Piece) (min max : Nat) : Build Piece := do
  let p ← exactly c min
  let e ← addState 0
  let last ← optionalCopies c p (max - min)
  last.join
  return ⟨p.entry, e, false⟩

/-- `e{n,}`. A body that cannot match the empty text loops through one union; one that can is
made `(e+)?`, to keep the order in which matches are preferred. -/
def atLeast (c : Build Piece) (nonEmpty : Bool) : Nat → Build Piece
  | 0 =>
    if nonEmpty then do
      let u ← addState 0
      let q ← c
      addAlternative
      q.join
      return ⟨u, u, true⟩
    else do
      let q ← c
      let _ ← addState 0
      q.join
      addAlternative
      let question ← addState 0
      let e ← addState 0
      addAlternative
      addAlternative
      addAlternative
      return ⟨question, e, false⟩
  | 1 => do
    let q ← c
    let u ← addState 0
    q.join
    addAlternative
    return ⟨q.entry, u, true⟩
  | n + 2 => do
    let p ← exactly c (n + 1)
    let last ← c
    let u ← addState 0
    p.join
    last.join
    addAlternative
    return ⟨p.entry, u, true⟩

/-- A repetition of a piece. -/
def repetition (c : Build Piece) (nonEmpty : Bool) (min : Nat) (max : Option Nat) : Build Piece :=
  match min, max with
  | 0, some 1 => zeroOrOne c
  | min, none => atLeast c nonEmpty min
  | min, some max => if min = max then exactly c min else bounded c min max

/-- A capture: its start state, the piece, its end state. -/
def capture (c : Build Piece) : Build Piece := do
  let s ← addState 0
  let q ← c
  let e ← addState 0
  q.join
  return ⟨s, e, false⟩

/-! ## Expressions -/

mutual

/-- Compiles an expression, backwards if `reverse`; captures only forwards. -/
def compile (reverse : Bool) : Expr → Build Piece
  | .empty | .look _ => single false 0
  | .literal cs => do
    let n := (cs.flatMap fun c => encode c.toNat).length
    let first ← addState 0
    for _ in [1:n] do
      discard (addState 0)
    return ⟨first, first + n - 1, false⟩
  | .chars s => classPiece reverse s
  | .rep body min max =>
    repetition (compile reverse body) ((Expr.minLen body).any (0 < ·)) min max
  | .capture _ _ body => if reverse then compile reverse body else capture (compile reverse body)
  | .seq items =>
    let parts := compileAll reverse items
    concat (if reverse then parts.reverse else parts)
  | .alt branches =>
    match literalsOf branches with
    | some literals => literalTrie reverse literals
    | none => union (compileAll reverse branches)

/-- The compilers of some expressions. -/
def compileAll (reverse : Bool) : List Expr → List (Build Piece)
  | [] => []
  | e :: rest => compile reverse e :: compileAll reverse rest

end

/-- The loop over any byte in front of an automaton that may start matching anywhere. -/
def anyBytePrefix : Build Piece := do
  let u ← addState 0
  let _ ← sparseClass 1
  addAlternative
  return ⟨u, u, true⟩

/-- The bytes of the automaton of an expression, in either direction, if they stay within
`limit`. -/
def measure (limit : Nat) (reverse : Bool) (e : Expr) : Option Nat :=
  let anchored := if reverse then e.endAnchored else e.startAnchored
  let build : Build Unit := do
    let lead ← if anchored then single false 0 else anyBytePrefix
    let whole ← if reverse then compile true e else capture (compile false e)
    let _ ← addState 0
    whole.join
    lead.join
  match build.run { limit } with
  | .ok (_, t) => some t.bytes
  | .error _ => none

/-- Whether both automata of an expression stay within `limit` bytes. -/
def fits (limit : Nat) (e : Expr) : Bool :=
  (measure limit false e).isSome && (measure limit true e).isSome

end TableMachine.Regex.Size
