import TableMachine.Binary64

/-!
# Similar names

When a command line names an argument or a subcommand that does not exist, the tool suggests the
known names close to it: those whose Jaro similarity with the given name is above `0.7`, least
similar first, so that the last one is the best.

The Jaro similarity of texts `a` and `b` counts the matching characters `m`: walking `a` from the
left, each character takes the first equal character of `b` not yet taken that is at most
`max |a| |b| / 2 - 1` places from it. The matched characters of `a` and of `b`, each in their
order, are then paired up, and `t` is half the number of pairs that differ. The similarity is
`(m / |a| + m / |b| + (m - t) / m) / 3`, and `0` when nothing matches. It is computed in double
precision, each division and sum rounded in the order of the formula, and compared with the
double nearest `0.7`: `zehkc` against `check` comes out just above it, though exactly it is
`7 / 10`.
-/

namespace TableMachine.Tool

/-- A similarity: a double between 0 and 1. -/
abbrev Similarity := Binary64

namespace Similarity

/-- Whether one similarity is below another. -/
def lt (x y : Similarity) : Bool := Binary64.lt x y

/-- The double nearest `0.7`. -/
def threshold : Similarity := (Binary64.ofRatio? 7 10).getD Binary64.zero

/-- Whether a similarity is high enough for a suggestion: above `0.7`. -/
def suggests (x : Similarity) : Bool := Binary64.lt threshold x

/-- `a / b` rounded, for counts. -/
def ratio (a b : Nat) : Similarity := (Binary64.ofRatio? a b).getD Binary64.zero

/-- A rounded sum. -/
def plus (x y : Similarity) : Similarity := (x.add y).getD Binary64.zero

end Similarity

/-- The first position in `lo ≤ j < hi` where `b` has `c` and no earlier match took it. -/
def freeMatch (b : Array Char) (taken : Array Bool) (c : Char) (lo hi : Nat) : Option Nat :=
  (List.range' lo (hi - lo)).find? fun j => b[j]? = some c ∧ taken[j]? = some false

/-- Matches the characters of `a` against `b` from position `i` on: the marks of the characters
of `b` taken, and the matched characters of `a` in order. -/
def matchChars (b : Array Char) (range : Nat) :
    Nat → List Char → Array Bool → List Char → Array Bool × List Char
  | _, [], taken, acc => (taken, acc.reverse)
  | i, c :: rest, taken, acc =>
    match freeMatch b taken c (i - range) (min b.size (i + range + 1)) with
    | some j => matchChars b range (i + 1) rest (taken.setIfInBounds j true) (c :: acc)
    | none => matchChars b range (i + 1) rest taken acc

/-- The Jaro similarity of two texts. -/
def jaro (a b : String) : Similarity :=
  let xs := a.toList
  let ys := b.toList
  let la := xs.length
  let lb := ys.length
  if la = 0 ∧ lb = 0 then Similarity.ratio 1 1
  else if la = 0 ∨ lb = 0 then Similarity.ratio 0 1
  else
    let range := max la lb / 2 - 1
    let (taken, fromA) := matchChars ys.toArray range 0 xs (Array.replicate lb false) []
    let fromB := (ys.zip taken.toList).filterMap fun (c, t) => if t then some c else none
    let m := fromA.length
    let t := ((fromA.zip fromB).filter fun (x, y) => x ≠ y).length / 2
    if m = 0 then Similarity.ratio 0 1
    else
      let sum := (Similarity.ratio m la).plus (Similarity.ratio m lb) |>.plus (Similarity.ratio (m - t) m)
      (sum.div (Similarity.ratio 3 1)).getD Binary64.zero

/-- Inserts a scored name after the names scored no higher. -/
def insertScored (x : Similarity × String) : List (Similarity × String) → List (Similarity × String)
  | [] => [x]
  | y :: ys => if x.1.lt y.1 then x :: y :: ys else y :: insertScored x ys

/-- The names close enough to a text, least similar first. -/
def similarNames (text : String) (names : List String) : List String :=
  let scored := names.filterMap fun n => let s := jaro text n; if s.suggests then some (s, n) else none
  (scored.foldl (fun acc x => insertScored x acc) []).map (·.2)

end TableMachine.Tool
