import TableMachine.Json.Value
import TableMachine.Text.Quoted
import TableMachine.Binary64

/-!
# Plain scalars

A plain YAML scalar is read as null, a boolean, an integer, a floating-point number or, failing
all of these, text (`Reading.ofPlain`):

* null is the empty text, `~`, `null`, `Null` or `NULL`;
* booleans are `true`, `True`, `TRUE`, `false`, `False` and `FALSE` (not `yes` or `on`);
* integers are decimal, or hexadecimal, octal or binary after `0x`, `0o` or `0b`, with one
  optional sign in front (`-0x10` is `-16`); a number of two or more digits with a leading zero
  (`017`, `-01`) is text. Integers are tried first as 64-bit and then as 128-bit numbers,
  unsigned before signed;
* floating-point numbers are the decimal forms `1.5`, `.5`, `1.`, `2e3` and `-1.5E-3`, and the
  infinities and not-a-number `.inf`, `-.inf`, `.nan` (in the same three spellings as null); a
  decimal stands for its nearest double, and one whose nearest double is infinite is text.

`Reading.describe` names a reading the way a type error shows it
(`integer 5`, `string "yes"`), and `Floating.text` writes a floating-point value the way such
messages do: positional, with `.0` after a whole number.
-/

namespace TableMachine.Yaml

/-- A floating-point value: a double, kept as the shortest decimal `±mantissa · 10 ^ exponent`
that rounds back to it, an infinity, or not a number. -/
inductive Floating where
  | finite (negative : Bool) (mantissa : Nat) (exponent : Int)
  | infinity (negative : Bool)
  | nan
  deriving DecidableEq, Repr

/-- What a plain scalar stands for. -/
inductive Reading where
  | null
  | bool (b : Bool)
  /-- A whole number that fits 64 bits unsigned. -/
  | unsigned (n : Nat)
  /-- A whole number read with a sign that fits 64 bits signed. -/
  | signed (i : Int)
  /-- A whole number that fits only 128 bits unsigned. -/
  | wideUnsigned (n : Nat)
  /-- A whole number read with a sign that fits only 128 bits signed. -/
  | wideSigned (i : Int)
  | float (f : Floating)
  | text (s : String)
  deriving DecidableEq, Repr

namespace Scalar

/-- Whether a text is one of the spellings of null (the empty text is not). -/
def isNull (s : String) : Bool := s = "~" || s = "null" || s = "Null" || s = "NULL"

/-- The boolean a text spells. -/
def bool? (s : String) : Option Bool :=
  if s = "true" || s = "True" || s = "TRUE" then some true
  else if s = "false" || s = "False" || s = "FALSE" then some false
  else none

/-- The value of a digit in a radix. -/
def digitValue? (radix : Nat) (c : Char) : Option Nat :=
  let v := if '0' ≤ c ∧ c ≤ '9' then c.toNat - '0'.toNat
    else if 'a' ≤ c ∧ c ≤ 'z' then c.toNat - 'a'.toNat + 10
    else if 'A' ≤ c ∧ c ≤ 'Z' then c.toNat - 'A'.toNat + 10
    else radix
  if v < radix then some v else none

/-- The number that a nonempty run of digits in a radix spells. -/
def digits? (radix : Nat) : List Char → Option Nat
  | [] => none
  | c :: cs => cs.foldl (fun acc d => acc.bind fun n => (digitValue? radix d).map (n * radix + ·))
      (digitValue? radix c)

/-- A whole number with at most one sign in front, kept if it lies in `[lo, hi)`; a minus sign
only where `signed`. -/
def integer? (cs : List Char) (radix : Nat) (signed : Bool) (lo hi : Int) : Option Int :=
  let value : Option Int := match cs with
    | ['+'] | ['-'] => none
    | '+' :: ds => (digits? radix ds).map Int.ofNat
    | '-' :: ds => if signed then (digits? radix ds).map fun n => -Int.ofNat n else none
    | ds => (digits? radix ds).map Int.ofNat
  value.bind fun v => if lo ≤ v ∧ v < hi then some v else none

/-- Whether a text is two or more digits with a leading zero, after one optional sign: such a
text is not a number. -/
def leadingZero (cs : List Char) : Bool :=
  let body := match cs with
    | '+' :: rest | '-' :: rest => rest
    | _ => cs
  match body with
  | '0' :: d :: rest => (d :: rest).all Char.isDigit
  | _ => false

/-- The radix prefixes after `0`. -/
def radixes : List (Char × Nat) := [('x', 16), ('o', 8), ('b', 2)]

/-- Whether a text starts with a sign. -/
def signed (cs : List Char) : Bool := cs.head? = some '+' || cs.head? = some '-'

/-- A number without a minus sign below `hi`: in a radix after its prefix, or decimal. A sign
right after a prefix makes the text no number. -/
def unsigned? (cs : List Char) (hi : Int) : Option Nat :=
  let u := match cs with
    | '+' :: rest => rest
    | _ => cs
  let rec go : List (Char × Nat) → Option Nat
    | [] =>
      if signed u || leadingZero cs then none
      else (integer? u 10 false 0 hi).map Int.toNat
    | (letter, radix) :: more =>
      match u with
      | '0' :: l :: rest =>
        if l ≠ letter then go more
        else if signed rest then none
        else match integer? rest radix false 0 hi with
          | some n => some n.toNat
          | none => go more
      | _ => go more
  go radixes

/-- A number with a minus sign allowed, in `[lo, hi)`: in a radix after `-0x`, `-0o` or `-0b`,
or decimal. -/
def negative? (cs : List Char) (lo hi : Int) : Option Int :=
  let rec go : List (Char × Nat) → Option Int
    | [] => if leadingZero cs then none else integer? cs 10 true lo hi
    | (letter, radix) :: more =>
      match cs with
      | '-' :: '0' :: l :: rest =>
        if l ≠ letter then go more
        else match integer? ('-' :: rest) radix true lo hi with
          | some i => some i
          | none => go more
      | _ => go more
  go radixes

/-- The whole number a text spells, tried as 64-bit unsigned, 64-bit signed, 128-bit unsigned
and 128-bit signed in turn. -/
def integer (s : String) : Option Reading :=
  let cs := s.toList
  match unsigned? cs (Int.pow 2 64) with
  | some n => some (.unsigned n)
  | none =>
  match negative? cs (-Int.pow 2 63) (Int.pow 2 63) with
  | some i => some (.signed i)
  | none =>
  match unsigned? cs (Int.pow 2 128) with
  | some n => some (.wideUnsigned n)
  | none => (negative? cs (-Int.pow 2 127) (Int.pow 2 127)).map .wideSigned

/-- A run of decimal digits at the front, and the rest. -/
def digitRun (cs : List Char) : List Char × List Char := (cs.takeWhile Char.isDigit, cs.dropWhile Char.isDigit)

/-- The number of a run of decimal digits; zero for none. -/
def runValue (ds : List Char) : Nat := (digits? 10 ds).getD 0

/-- A decimal floating-point text without its sign: digits with an optional point and an
optional exponent, as the mantissa digits and the power of ten. -/
def decimal? (cs : List Char) : Option (Nat × Int) :=
  let (whole, rest) := digitRun cs
  let (frac, rest) := match rest with
    | '.' :: more => digitRun more
    | _ => ([], rest)
  if whole.isEmpty && frac.isEmpty then none
  else
    let expo : Option Int := match rest with
      | [] => some 0
      | e :: more =>
        if e ≠ 'e' ∧ e ≠ 'E' then none
        else
          let (neg, ds) := match more with
            | '+' :: ds => (false, ds)
            | '-' :: ds => (true, ds)
            | ds => (false, ds)
          if ds.isEmpty || !ds.all Char.isDigit then none
          else some (if neg then -Int.ofNat (runValue ds) else Int.ofNat (runValue ds))
    expo.map fun x => (runValue (whole ++ frac), x - frac.length)

/-- The number of decimal digits of a positive number. -/
def digitCount (n : Nat) : Nat := (Nat.toDigits 10 n).length

/-- A text in the general floating-point grammar: an optional sign, then a decimal, or `inf`,
`infinity` or `nan` in any case. -/
def general? (cs : List Char) : Option Floating :=
  let (neg, body) := match cs with
    | '-' :: rest => (true, rest)
    | '+' :: rest => (false, rest)
    | _ => (false, cs)
  let word := String.ofList (body.map Char.toLower)
  if word = "inf" || word = "infinity" then some (.infinity neg)
  else if word = "nan" then some .nan
  else (decimal? body).map fun (m, e) =>
    match Binary64.ofDecimal? m e with
    | some x => let (d, p) := x.shortest; .finite neg d p
    | none => .infinity neg

/-- The finite or special floating-point value a plain text spells. -/
def float? (s : String) : Option Floating :=
  let cs := s.toList
  let unpositive? : Option (List Char) := match cs with
    | '+' :: rest => if signed rest then none else some rest
    | _ => some cs
  unpositive?.bind fun u =>
    let u := String.ofList u
    if u = ".inf" || u = ".Inf" || u = ".INF" then some (.infinity false)
    else if s = "-.inf" || s = "-.Inf" || s = "-.INF" then some (.infinity true)
    else if s = ".nan" || s = ".NaN" || s = ".NAN" then some .nan
    else match general? u.toList with
      | some (.finite neg m e) => some (.finite neg m e)
      | _ => none

end Scalar

namespace Floating

/-- Strips trailing zeros from a mantissa, raising the exponent. -/
def normalize (m : Nat) (e : Int) : Nat → Nat × Int
  | 0 => (m, e)
  | fuel + 1 => if m ≠ 0 ∧ m % 10 = 0 then normalize (m / 10) (e + 1) fuel else (m, e)

/-- A value in positional notation, with `.0` after a whole number; `inf`, `-inf` and `NaN` for
the special values. -/
def text : Floating → String
  | .infinity neg => if neg then "-inf" else "inf"
  | .nan => "NaN"
  | .finite neg m e =>
    let sign := if neg then "-" else ""
    let (m, e) := normalize m e (Scalar.digitCount m)
    let ds := Nat.toDigits 10 m
    let zeros (k : Nat) := String.ofList (List.replicate k '0')
    let body :=
      if m = 0 then "0.0"
      else if 0 ≤ e then String.ofList ds ++ zeros e.toNat ++ ".0"
      else
        let point := (ds.length : Int) + e
        if point ≤ 0 then "0." ++ zeros (-point).toNat ++ String.ofList ds
        else String.ofList (ds.take point.toNat) ++ "." ++ String.ofList (ds.drop point.toNat)
    sign ++ body

/-- The JSON value of a floating-point value: infinities and not-a-number are `null`. -/
def toJson : Floating → Json
  | .finite neg m e => .num (if neg then -Int.ofNat m else Int.ofNat m) e
  | _ => .null

end Floating

namespace Reading

/-- Reads a plain scalar. -/
def ofPlain (s : String) : Reading :=
  if s.isEmpty || Scalar.isNull s then .null
  else match Scalar.bool? s with
  | some b => .bool b
  | none =>
  match Scalar.integer s with
  | some r => r
  | none =>
    if Scalar.leadingZero s.toList then .text s
    else match Scalar.float? s with
      | some f => .float f
      | none => .text s

/-- How a type error names a reading. -/
def describe : Reading → String
  | .null => "unit value"
  | .bool b => "boolean " ++ "\x60" ++ toString b ++ "\x60"
  | .unsigned n => "integer " ++ "\x60" ++ toString n ++ "\x60"
  | .signed i => "integer " ++ "\x60" ++ toString i ++ "\x60"
  | .wideUnsigned n => "integer " ++ "\x60" ++ toString n ++ "\x60 as u128"
  | .wideSigned i => "integer " ++ "\x60" ++ toString i ++ "\x60 as i128"
  | .float f => "floating point " ++ "\x60" ++ f.text ++ "\x60"
  | .text s => "string " ++ Text.quote s

/-- The JSON value of a reading; whole numbers beyond 64 bits have none. -/
def toJson? : Reading → Option Json
  | .null => some .null
  | .bool b => some (.bool b)
  | .unsigned n => some (.num n 0)
  | .signed i => some (.num i 0)
  | .wideUnsigned _ | .wideSigned _ => none
  | .float f => some f.toJson
  | .text s => some (.str s)

end Reading

end TableMachine.Yaml
