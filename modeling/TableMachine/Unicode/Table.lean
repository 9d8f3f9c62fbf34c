/-!
# Code point tables

The character data of this library (categories, scripts, binary properties, case maps and case
folding) is stored as text: runs of hexadecimal digits, each ended by a one-character separator.
This module reads that text into three shapes of table and answers look-ups by binary search.

* `InversionList`: a set of code points, kept as the sorted boundaries of its ranges; a code point
  is a member when an odd number of boundaries lie at or below it (`InversionList.contains`).
* `InversionMap`: a total map from code points to values, kept as the sorted starts of its runs.
* `CodeMap`: a partial map with sorted keys, each key carrying a list of code points.

Every table's text lists keys as differences from the key before it, so the text stays short and
the keys come out sorted.
-/

namespace TableMachine.Unicode

/-! ## Reading table text -/

/-- The value of a hexadecimal digit, in either case. -/
def hexDigit? (c : Char) : Option Nat :=
  if '0' ≤ c ∧ c ≤ '9' then some (c.toNat - '0'.toNat)
  else if 'a' ≤ c ∧ c ≤ 'f' then some (c.toNat - 'a'.toNat + 10)
  else if 'A' ≤ c ∧ c ≤ 'F' then some (c.toNat - 'A'.toNat + 10)
  else none

/-- Reading state: the number being read, whether it has a digit yet, and the fields so far
(newest first). -/
private structure FieldState where
  value : Nat := 0
  pending : Bool := false
  done : List (Nat × Char) := []

private def FieldState.push (st : FieldState) (c : Char) : FieldState :=
  match hexDigit? c with
  | some d => { st with value := st.value * 16 + d, pending := true }
  | none => { value := 0, pending := false, done := (st.value, c) :: st.done }

/-- The fields of a table text: each hexadecimal number with the character that ends it.
A number at the very end counts as ended by a comma. -/
def fields (s : String) : List (Nat × Char) :=
  let st := s.foldl FieldState.push {}
  (if st.pending then (st.value, ',') :: st.done else st.done).reverse

/-- Running sums of a list of differences, starting from `base`. -/
def runningSums (base : Nat) : List Nat → List Nat
  | [] => []
  | d :: ds => (base + d) :: runningSums (base + d) ds

/-! ## Binary search -/

/-- The number of leading entries of `a` that satisfy `p`, for a `p` that holds on a prefix of
`a` and fails after it. -/
def countWhile {α : Type} (a : Array α) (p : α → Bool) : Nat :=
  go 0 a.size
where
  /-- Search between `lo` (inclusive) and `hi` (exclusive). -/
  go (lo hi : Nat) : Nat :=
    if h : lo < hi then
      let mid := (lo + hi) / 2
      have : mid < hi := by omega
      match a[mid]? with
      | some x => if p x then go (mid + 1) hi else go lo mid
      | none => lo
    else lo
  termination_by hi - lo

/-- The number of entries of a sorted array that are at most `c`. -/
def countAtMost (a : Array Nat) (c : Nat) : Nat := countWhile a (· ≤ c)

/-! ## Sets of code points -/

/-- A set of code points as the sorted boundaries of its ranges: the set holds the points from
each even-indexed boundary up to, not including, the next one. -/
structure InversionList where
  points : Array Nat
  deriving Inhabited

namespace InversionList

/-- Membership: an odd number of boundaries lie at or below the code point. -/
def contains (s : InversionList) (c : Nat) : Bool :=
  countAtMost s.points c % 2 == 1

/-- Reads an inversion list from text of comma-ended differences. -/
def decode (text : String) : InversionList :=
  ⟨(runningSums 0 ((fields text).map Prod.fst)).toArray⟩

/-- Pairs up consecutive boundaries. -/
def pairUp : List Nat → List (Nat × Nat)
  | a :: b :: rest => (a, b - 1) :: pairUp rest
  | [a] => [(a, 0x10FFFF)]
  | [] => []

/-- The ranges of the set, as inclusive bounds, in increasing order. -/
def ranges (s : InversionList) : List (Nat × Nat) := pairUp s.points.toList

end InversionList

/-! ## Total maps by runs -/

/-- A total map from code points to values: `starts[i]` begins a run of `values[i]` that lasts
until the next start. -/
structure InversionMap (α : Type) where
  starts : Array Nat
  values : Array α

namespace InversionMap

variable {α : Type}

/-- The value at a code point; `default` below the first start. -/
def lookup (m : InversionMap α) (default : α) (c : Nat) : α :=
  match countAtMost m.starts c with
  | 0 => default
  | k + 1 => m.values.getD k default

/-- Reads a map from text of `difference:value,` entries, the values being indices into
`names`. -/
def decode (names : Array α) (default : α) (text : String) : InversionMap α :=
  let rec split : List (Nat × Char) → List Nat × List α
    | (d, _) :: (v, _) :: rest =>
      let (ds, vs) := split rest
      (d :: ds, names.getD v default :: vs)
    | _ => ([], [])
  let (ds, vs) := split (fields text)
  ⟨(runningSums 0 ds).toArray, vs.toArray⟩

/-- Inclusive ranges of the runs whose value satisfies `p`, in increasing order, with touching
runs joined. -/
def rangesWhere (m : InversionMap α) (p : α → Bool) : List (Nat × Nat) :=
  let ends := (m.starts.toList.drop 1).map (· - 1) ++ [0x10FFFF]
  let runs := (m.starts.toList.zip (m.values.toList.zip ends)).filterMap fun (s, v, e) =>
    if p v then some (s, e) else none
  let rec join : List (Nat × Nat) → List (Nat × Nat)
    | (a, b) :: (c, d) :: rest =>
      if b + 1 = c then join ((a, d) :: rest) else (a, b) :: join ((c, d) :: rest)
    | r => r
  termination_by l => l.length
  join runs

end InversionMap

/-! ## Partial maps with list values -/

/-- A partial map from code points to lists of code points, with sorted keys. -/
structure CodeMap where
  keys : Array Nat
  values : Array (List Nat)
  deriving Inhabited

namespace CodeMap

/-- The entry of a code point, if it has one. -/
def find? (m : CodeMap) (c : Nat) : Option (List Nat) :=
  match countAtMost m.keys c with
  | 0 => none
  | k + 1 => if m.keys.getD k 0 = c then m.values[k]? else none

/-- Reads a map from text of `difference=value.value.…,` entries. -/
def decode (text : String) : CodeMap :=
  let rec split : List (Nat × Char) → List Nat → List Nat × List (List Nat)
    | [], _ => ([], [])
    | (n, '=') :: rest, _ =>
      let (ks, vs) := split rest []
      (n :: ks, vs)
    | (n, '.') :: rest, acc => split rest (n :: acc)
    | (n, _) :: rest, acc =>
      let (ks, vs) := split rest []
      (ks, (n :: acc).reverse :: vs)
  let (ds, vs) := split (fields text) []
  ⟨(runningSums 0 ds).toArray, vs.toArray⟩

/-- The entries whose key lies in `lo … hi`, in key order. -/
def entriesIn (m : CodeMap) (lo hi : Nat) : List (Nat × List Nat) :=
  let first := countWhile m.keys (· < lo)
  let last := countAtMost m.keys hi
  ((List.range (last - first)).map (· + first)).filterMap fun i =>
    match m.keys[i]?, m.values[i]? with
    | some k, some v => some (k, v)
    | _, _ => none

end CodeMap

end TableMachine.Unicode
