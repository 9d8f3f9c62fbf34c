/-!
# UTF-8 byte-range sequences

An automaton over bytes reads a range of code points as a handful of byte-range sequences: the
range `80 … 7FF` is the single sequence `[C2-DF][80-BF]`, while `0 … 10FFFF` needs several, one
per encoding length and per boundary where the continuation bytes stop spanning their full
range. `Utf8.sequences` gives the fewest such sequences, in increasing order of the code points
they cover, with the surrogates `D800 … DFFF` left out (they have no encoding).

A range is split, in this order: around the surrogates; at the last code point of each encoding
length (`7F`, `7FF`, `FFFF`); and at the first place, scanning the continuation bytes from the
last, where the range starts inside a block of `64 ^ i` code points or ends before the end of
one. What remains has encodings of one length, and its first and last code points, byte by
byte, bound the ranges of the sequence.
-/

namespace TableMachine.Regex.Utf8

/-- An inclusive range of byte values. -/
structure ByteRange where
  lo : Nat
  hi : Nat
  deriving DecidableEq, Repr

/-- The UTF-8 encoding of a code point, as byte values. -/
def encode (c : Nat) : List Nat :=
  if c < 0x80 then [c]
  else if c < 0x800 then [0xC0 + c / 64, 0x80 + c % 64]
  else if c < 0x10000 then [0xE0 + c / 4096, 0x80 + c / 64 % 64, 0x80 + c % 64]
  else [0xF0 + c / 262144, 0x80 + c / 4096 % 64, 0x80 + c / 64 % 64, 0x80 + c % 64]

/-- The largest code point whose encoding takes `n` bytes. -/
def maxScalar : Nat → Nat
  | 1 => 0x7F
  | 2 => 0x7FF
  | 3 => 0xFFFF
  | _ => 0x10FFFF

/-- The split of `lo … hi` at the end of an encoding length, if it spans one. -/
def lengthSplit (lo hi : Nat) : Option ((Nat × Nat) × (Nat × Nat)) :=
  ([1, 2, 3].find? fun i => lo ≤ maxScalar i ∧ maxScalar i < hi).map fun i =>
    ((lo, maxScalar i), (maxScalar i + 1, hi))

/-- The split of `lo … hi` at a block of `64 ^ i` code points, for the smallest `i` where the
two ends lie in different blocks and one end is not at a block's edge. -/
def blockSplit (lo hi : Nat) : Option ((Nat × Nat) × (Nat × Nat)) :=
  [1, 2, 3].findSome? fun i =>
    let size := Nat.pow 64 i
    if lo / size = hi / size then none
    else if lo % size ≠ 0 then some ((lo, lo - lo % size + size - 1), (lo - lo % size + size, hi))
    else if hi % size ≠ size - 1 then some ((lo, hi - hi % size - 1), (hi - hi % size, hi))
    else none

/-- Works through a stack of code point ranges, the top first, splitting each until it is one
sequence; `fuel` bounds the rounds. -/
def split : Nat → List (Nat × Nat) → List (List ByteRange) → List (List ByteRange)
  | 0, _, acc => acc.reverse
  | _, [], acc => acc.reverse
  | fuel + 1, (lo, hi) :: stack, acc =>
    if lo < 0xE000 ∧ 0xD7FF < hi then split fuel ((lo, 0xD7FF) :: (0xE000, hi) :: stack) acc
    else if hi < lo then split fuel stack acc
    else
      match lengthSplit lo hi with
      | some (a, b) => split fuel (a :: b :: stack) acc
      | none =>
        if hi ≤ 0x7F then split fuel stack ([⟨lo, hi⟩] :: acc)
        else
          match blockSplit lo hi with
          | some (a, b) => split fuel (a :: b :: stack) acc
          | none =>
            let seq := (encode lo).zip (encode hi) |>.map fun (a, b) => ByteRange.mk a b
            split fuel stack (seq :: acc)

/-- The byte-range sequences of the code points `lo … hi`, in order. -/
def sequences (lo hi : Nat) : List (List ByteRange) := split 64 [(lo, hi)] []

end TableMachine.Regex.Utf8
