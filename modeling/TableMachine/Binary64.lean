/-!
# Double-precision numbers

A finite, non-negative double-precision number is `significand · 2 ^ exponent` with a
significand below `2 ^ 53` and an exponent of at least `-1074`; it is normal when its significand
is at least `2 ^ 52`, and the largest finite exponent is `971`. Signs are kept beside the
magnitude by the callers, so `Binary64` holds magnitudes only.

Everything here is computed exactly on natural numbers:

* `Binary64.ofRatio?` rounds a fraction to the nearest double, a tie going to the even
  significand, and gives `none` when the fraction rounds to infinity;
* `add`, `div` and `mul` are the exact result rounded, as the hardware operations are;
* `Binary64.shortest` gives the decimal with the fewest significant digits that rounds back to
  the value, the one nearest the value when several are that short.

> A fraction rounds to infinity exactly when it is at least `2 ^ 1024 - 2 ^ 970`, half way
> between the largest finite double and `2 ^ 1024`.
-/

namespace TableMachine

/-- A finite, non-negative double: `significand * 2 ^ exponent`. -/
structure Binary64 where
  significand : Nat
  exponent : Int
  deriving DecidableEq, Repr, Inhabited

namespace Binary64

/-- The smallest exponent, that of zero and of the subnormal numbers. -/
def minExponent : Int := -1074

/-- The largest exponent of a finite double. -/
def maxExponent : Int := 971

/-- Zero. -/
def zero : Binary64 := ⟨0, minExponent⟩

/-- `a * 2 ^ k` as a fraction of natural numbers. -/
def scaled (a : Nat) (k : Int) : Nat × Nat :=
  if 0 ≤ k then (a * Nat.pow 2 k.toNat, 1) else (a, Nat.pow 2 (-k).toNat)

/-- The exact value as a fraction. -/
def toRatio (x : Binary64) : Nat × Nat := scaled x.significand x.exponent

/-- The exponent `k` of the highest power of two at most `num / den`, for a positive fraction. -/
def floorLog2 (num den : Nat) : Int :=
  let b : Int := (Nat.log2 num : Int) - (Nat.log2 den : Int)
  -- `2 ^ (b - 1) < num / den < 2 ^ (b + 1)`; one comparison settles which side of `2 ^ b`
  let (p, q) := scaled den b
  if num * q ≥ p then b else b - 1

/-- Rounds `num / den` to the nearest double, ties to an even significand; `none` when it rounds
to infinity. The denominator must be positive. -/
def ofRatio? (num den : Nat) : Option Binary64 :=
  if num = 0 then some zero
  else
    let e := max minExponent (floorLog2 num den - 52)
    -- `num / den = (q + rem / divisor) * 2 ^ e`
    let (n, d) :=
      if 0 ≤ e then (num, den * Nat.pow 2 e.toNat) else (num * Nat.pow 2 (-e).toNat, den)
    let q := n / d
    let rem := n % d
    let up := 2 * rem > d || (2 * rem = d && q % 2 = 1)
    let q := if up then q + 1 else q
    let (q, e) := if q = Nat.pow 2 53 then (Nat.pow 2 52, e + 1) else (q, e)
    if e > maxExponent then none else some ⟨q, e⟩

/-- The double nearest a natural number, if finite. -/
def ofNat? (n : Nat) : Option Binary64 := ofRatio? n 1

/-- The double nearest `m * 10 ^ e`, if finite. -/
def ofDecimal? (m : Nat) (e : Int) : Option Binary64 :=
  if 0 ≤ e then ofRatio? (m * Nat.pow 10 e.toNat) 1 else ofRatio? m (Nat.pow 10 (-e).toNat)

/-- Whether `x < y`. -/
def lt (x y : Binary64) : Bool :=
  let (a, b) := x.toRatio
  let (c, d) := y.toRatio
  a * d < c * b

/-- The rounded sum. -/
def add (x y : Binary64) : Option Binary64 :=
  let (a, b) := x.toRatio
  let (c, d) := y.toRatio
  ofRatio? (a * d + c * b) (b * d)

/-- The rounded product. -/
def mul (x y : Binary64) : Option Binary64 :=
  let (a, b) := x.toRatio
  let (c, d) := y.toRatio
  ofRatio? (a * c) (b * d)

/-- The rounded quotient; `none` for a zero divisor or an infinite result. -/
def div (x y : Binary64) : Option Binary64 :=
  let (a, b) := x.toRatio
  let (c, d) := y.toRatio
  if c = 0 then none else ofRatio? (a * d) (b * c)

/-! ## Shortest decimals -/

/-- Compares `c * 10 ^ p` with `u * 2 ^ k`. -/
def compareScaled (c : Nat) (p : Int) (u : Nat) (k : Int) : Ordering :=
  let lhs := c * Nat.pow 10 p.toNat * Nat.pow 2 (-k).toNat
  let rhs := u * Nat.pow 2 k.toNat * Nat.pow 10 (-p).toNat
  compare lhs rhs

/-- The rounding interval of a positive double, in units of `2 ^ (exponent - 2)`: the value, the
bounds below and above it, and whether the bounds round to the value themselves. -/
def interval (x : Binary64) : Nat × Nat × Nat × Bool :=
  let v := 4 * x.significand
  let below := if x.significand = Nat.pow 2 52 ∧ x.exponent > minExponent then v - 1 else v - 2
  (v, below, v + 2, x.significand % 2 = 0)

/-- The shortest decimal candidate at the power of ten `10 ^ p`, if one rounds back to `x`: the
multiple of `10 ^ p` just below the value or the one just above it, the nearer one when both do
(the upper one on a tie). -/
def candidateAt (x : Binary64) (p : Int) : Option Nat :=
  let (v, below, above, inclusive) := x.interval
  let k := x.exponent - 2
  -- `d = ⌊value / 10 ^ p⌋`
  let num := v * Nat.pow 2 k.toNat * Nat.pow 10 (-p).toNat
  let den := Nat.pow 2 (-k).toNat * Nat.pow 10 p.toNat
  let d := num / den
  let inside := fun (c : Nat) =>
    let lo := compareScaled c p below k
    let hi := compareScaled c p above k
    (lo == .gt || (inclusive && lo == .eq)) && (hi == .lt || (inclusive && hi == .eq))
  match inside d, inside (d + 1) with
  | true, true =>
    -- the nearer of the two: compare `2 · value` with `(2d + 1) · 10 ^ p`
    if compareScaled (2 * d + 1) p (2 * v) k == .gt then some d else some (d + 1)
  | true, false => some d
  | false, true => some (d + 1)
  | false, false => none

/-- Strips trailing zeros from `m * 10 ^ e`. -/
def stripZeros (m : Nat) (e : Int) : Nat → Nat × Int
  | 0 => (m, e)
  | fuel + 1 => if m ≠ 0 ∧ m % 10 = 0 then stripZeros (m / 10) (e + 1) fuel else (m, e)

/-- Tries the powers of ten from `10 ^ p` down, `fuel` of them. -/
def searchFrom (x : Binary64) (p : Int) : Nat → Option (Nat × Int)
  | 0 => none
  | fuel + 1 =>
    match x.candidateAt p with
    | some c => some (stripZeros c p 20)
    | none => searchFrom x (p - 1) fuel

/-- The shortest decimal `m * 10 ^ e` that rounds back to `x`, with no trailing zeros in `m`;
`(0, 0)` for zero. -/
def shortest (x : Binary64) : Nat × Int :=
  if x.significand = 0 then (0, 0)
  else
    -- the value is below `2 ^ bits`, so its decimal exponent is below `bits · log10 2 + 1`
    let bits : Int := (Nat.log2 x.significand : Int) + x.exponent + 1
    let start := bits * 30103 / 100000 + 2
    (searchFrom x start 48).getD (x.significand, 0)

end Binary64

end TableMachine
