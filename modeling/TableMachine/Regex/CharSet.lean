import TableMachine.Regex.Ucd.Category
import TableMachine.Regex.Ucd.Script
import TableMachine.Regex.Ucd.Property
import TableMachine.Regex.Ucd.Age
import TableMachine.Regex.Ucd.Break
import TableMachine.Regex.Ucd.CaseFold

/-!
# Character sets of patterns

A `CharSet` is a list of inclusive code point ranges, sorted and with no two ranges touching or
overlapping (`CharSet.normalize` brings any list of ranges into that form). On top of the set
operations this module gives the sets a pattern can name:

* the Perl classes `\d` (decimal numbers), `\s` (white space) and `\w` (alphabetic, marks,
  decimal numbers, connector punctuation and joiners), and their ASCII forms;
* the bracket classes `[:alpha:]` and the others, always ASCII;
* Unicode properties by loose name (`\p{Greek}`, `\p{Lu}`), resolved as a binary property
  first, then a general category, then a script;
* properties with a value (`\p{gc=Letter}`, `\p{scx=Greek}`, `\p{age=6.0}`, `\p{wb=ALetter}`),
  for the general category, script, script extensions, age and the three break properties.

All of them follow the character database of Unicode 16.0 (`Regex.Ucd`).

`CharSet.caseFold` adds to a set every character that is equal to one of its members up to
simple case folding.
-/

namespace TableMachine.Regex

open TableMachine.Unicode

/-- The largest code point. -/
def maxCode : Nat := 0x10FFFF

/-- A set of code points as sorted, separated, inclusive ranges. -/
structure CharSet where
  ranges : List (Nat × Nat)
  deriving DecidableEq, Repr, Inhabited

namespace CharSet

/-- Joins sorted ranges that touch or overlap. -/
def joinSorted : List (Nat × Nat) → List (Nat × Nat)
  | (a, b) :: (c, d) :: rest =>
    if c ≤ b + 1 then joinSorted ((a, max b d) :: rest) else (a, b) :: joinSorted ((c, d) :: rest)
  | r => r
termination_by l => l.length

/-- The set of any list of ranges; ranges whose start lies past their end are dropped. -/
def normalize (rs : List (Nat × Nat)) : CharSet :=
  ⟨joinSorted ((rs.filter fun (a, b) => a ≤ b).mergeSort fun x y => x.1 ≤ y.1)⟩

/-- The empty set. -/
def empty : CharSet := ⟨[]⟩

/-- The set of all code points. -/
def full : CharSet := ⟨[(0, maxCode)]⟩

/-- A set of one character. -/
def single (c : Nat) : CharSet := ⟨[(c, c)]⟩

/-- A set of one range. -/
def range (a b : Nat) : CharSet := normalize [(a, b)]

/-- Union of two sets. -/
def union (s t : CharSet) : CharSet := normalize (s.ranges ++ t.ranges)

/-- The complement of sorted, separated ranges within `lo … maxCode`. -/
def complementFrom (lo : Nat) : List (Nat × Nat) → List (Nat × Nat)
  | [] => if lo ≤ maxCode then [(lo, maxCode)] else []
  | (a, b) :: rest =>
    let gap := if lo < a then [(lo, a - 1)] else []
    gap ++ complementFrom (b + 1) rest

/-- The complement of a set. -/
def negate (s : CharSet) : CharSet := ⟨complementFrom 0 s.ranges⟩

/-- Intersection of two sets. -/
def intersect (s t : CharSet) : CharSet := (union s.negate t.negate).negate

/-- The members of `s` that are not in `t`. -/
def difference (s t : CharSet) : CharSet := intersect s t.negate

/-- The members of exactly one of the two sets. -/
def symmDiff (s t : CharSet) : CharSet := union (difference s t) (difference t s)

/-- Whether a code point is a member. -/
def contains (s : CharSet) (c : Nat) : Bool := s.ranges.any fun (a, b) => a ≤ c ∧ c ≤ b

/-- The set closed under simple case folding. -/
def caseFold (s : CharSet) : CharSet :=
  let partners := s.ranges.flatMap fun (a, b) =>
    (Ucd.foldMap.entriesIn a b).flatMap fun (_, others) => others.map fun o => (o, o)
  normalize (s.ranges ++ partners)

/-- The set closed under ASCII case folding only. -/
def asciiCaseFold (s : CharSet) : CharSet :=
  let flip := fun (lo hi shift : Nat) (up : Bool) =>
    (s.intersect (range lo hi)).ranges.map fun (a, b) =>
      if up then (a + shift, b + shift) else (a - shift, b - shift)
  normalize (s.ranges ++ flip 97 122 32 false ++ flip 65 90 32 true)

/-- Whether every member is an ASCII character. -/
def isAscii (s : CharSet) : Bool := s.ranges.all fun (_, b) => b ≤ 0x7F

/-- The sorted boundaries of the set, for fast membership tests. -/
def toInversionList (s : CharSet) : InversionList :=
  ⟨(s.ranges.flatMap fun (a, b) => [a, b + 1]).toArray⟩

end CharSet

/-! ## Named sets -/

/-- The characters of general categories that satisfy `p`. -/
def categorySet (p : GeneralCategory → Bool) : CharSet := ⟨Ucd.categoryMap.rangesWhere p⟩

/-- Decimal numbers: `\d`. -/
def digitSet : CharSet := categorySet (· == .decimalNumber)

/-- White space: `\s`. -/
def spaceSet : CharSet := ⟨Ucd.whiteSpace.ranges⟩

/-- Word characters: `\w`. -/
def wordSet : CharSet :=
  CharSet.normalize (Ucd.alphabetic.ranges ++ Ucd.joinControl.ranges ++
    (categorySet fun g => g == .nonspacingMark || g == .spacingMark || g == .enclosingMark ||
      g == .decimalNumber || g == .connectorPunctuation).ranges)

/-- Membership in `wordSet`, by binary search. -/
def wordTable : InversionList := wordSet.toInversionList

/-- Whether a character is a word character. -/
def isWordChar (c : Char) : Bool := wordTable.contains c.toNat

/-- Whether a character is an ASCII word character. -/
def isAsciiWordChar (c : Char) : Bool := c.isAlphanum || c = '_'

/-- The classes `\d`, `\s` and `\w`. -/
inductive PerlClass where
  | digit
  | space
  | word
  deriving DecidableEq, Repr

/-- A Perl class under Unicode rules. -/
def PerlClass.unicodeSet : PerlClass → CharSet
  | .digit => digitSet
  | .space => spaceSet
  | .word => wordSet

/-- A Perl class under ASCII rules. -/
def PerlClass.asciiSet : PerlClass → CharSet
  | .digit => CharSet.range 48 57
  | .space => CharSet.normalize [(9, 13), (32, 32)]
  | .word => CharSet.normalize [(48, 57), (65, 90), (95, 95), (97, 122)]

/-- The bracket classes `[:name:]`, by name. -/
def asciiClass? : String → Option CharSet
  | "alnum" => some (CharSet.normalize [(48, 57), (65, 90), (97, 122)])
  | "alpha" => some (CharSet.normalize [(65, 90), (97, 122)])
  | "ascii" => some (CharSet.range 0 0x7F)
  | "blank" => some (CharSet.normalize [(9, 9), (32, 32)])
  | "cntrl" => some (CharSet.normalize [(0, 31), (127, 127)])
  | "digit" => some (CharSet.range 48 57)
  | "graph" => some (CharSet.range 33 126)
  | "lower" => some (CharSet.range 97 122)
  | "print" => some (CharSet.range 32 126)
  | "punct" => some (CharSet.normalize [(33, 47), (58, 64), (91, 96), (123, 126)])
  | "space" => some (CharSet.normalize [(9, 13), (32, 32)])
  | "upper" => some (CharSet.range 65 90)
  | "word" => some (CharSet.normalize [(48, 57), (65, 90), (95, 95), (97, 122)])
  | "xdigit" => some (CharSet.normalize [(48, 57), (65, 70), (97, 102)])
  | _ => none

/-! ## Unicode properties by name -/

/-- The loose form of a property name: ASCII only, lower case, without spaces, underscores and
hyphens, and without a leading `is` (except that `isc` stays `isc`). -/
def looseName (s : String) : String :=
  let cs := s.toList
  let (dropIs, body) :=
    match cs with
    | a :: b :: rest => if (a = 'i' ∨ a = 'I') ∧ (b = 's' ∨ b = 'S') then (true, rest) else (false, cs)
    | _ => (false, cs)
  let kept := body.filterMap fun c =>
    if c = ' ' ∨ c = '_' ∨ c = '-' ∨ c.toNat > 0x7F then none else some c.toLower
  if dropIs && kept = ['c'] then "isc" else String.ofList kept

/-- Why a property does not name a set. -/
inductive PropertyError where
  | notFound
  | valueNotFound
  deriving DecidableEq, Repr

/-- The set of a general category or category group, by loose name. A name that is no category
gives `notFound`; the surrogates are a category with a name but no set, and give
`valueNotFound`. -/
def categoryByName (n : String) : Except PropertyError CharSet :=
  if n = "any" then .ok CharSet.full
  else if n = "assigned" then .ok (categorySet (· != .unassigned))
  else if n = "ascii" then .ok (CharSet.range 0 0x7F)
  else
    match Ucd.categoryNames.find? (fun (names, _) => names.contains n) with
    | some (_, cats, true) => .ok (categorySet (fun g => cats.contains g))
    | some (_, _, false) => .error .valueNotFound
    | none => .error .notFound

/-- The index of a script in `Ucd.scriptNames`, by loose name. -/
def scriptIndex? (n : String) : Option Nat :=
  (List.range Ucd.scriptNames.size).find? fun i =>
    (Ucd.scriptNames.getD i ("", [], false)).2.1.contains n

/-- The index of a script that the script data lists, by loose name. `Unknown` and
`Katakana_Or_Hiragana` are names of the property's values but have no set. -/
def listedScript? (n : String) : Option Nat :=
  (scriptIndex? n).filter fun i => (Ucd.scriptNames.getD i ("", [], false)).2.2

/-- The set of a script, by loose name. -/
def scriptByName? (n : String) : Option CharSet :=
  (listedScript? n).map fun i => ⟨Ucd.scriptMap.rangesWhere (· == i)⟩

/-- The characters used with a script, by loose name: those whose script extensions include it. -/
def scriptExtensionByName? (n : String) : Option CharSet :=
  (listedScript? n).map fun i =>
    ⟨Ucd.scriptExtensionMap.rangesWhere fun k => (Ucd.scriptExtensionSets.getD k []).contains i⟩

/-- The characters assigned in a version or before, by loose name (`6.0` or `v60`). -/
def ageByName? (n : String) : Option CharSet :=
  (List.range Ucd.ageNames.size).find? (fun i => (Ucd.ageNames.getD i ("", [])).2.contains n) |>.map
    fun i => ⟨Ucd.ageMap.rangesWhere fun a => 0 < a ∧ a ≤ i + 1⟩

/-- The characters with a value of a break property, by the value's loose name. Only the values
that the property's data lists have sets: not the default `Other`, nor values no longer used. -/
def breakByName? (values : Array (String × List String × Bool)) (m : InversionMap Nat) (n : String) :
    Option CharSet :=
  match (List.range values.size).find? (fun i => (values.getD i ("", [], false)).2.1.contains n) with
  | some i => if (values.getD i ("", [], false)).2.2 then some ⟨m.rangesWhere (· == i)⟩ else none
  | none => none

/-- The set of a binary property, by loose name. -/
def binaryByName? (n : String) : Option CharSet :=
  (Ucd.binaryProperties.find? (fun (names, _) => names.contains n)).map fun (_, s) => ⟨s.ranges⟩

/-- A single name such as `\p{Greek}` or `\pL`: a binary property, then a general category,
then a script. The names `cf`, `sc` and `lc` are categories, not properties. -/
def namedSet (name : String) : Except PropertyError CharSet :=
  let n := looseName name
  let asProperty := if n = "cf" ∨ n = "sc" ∨ n = "lc" then false else Ucd.propertyNames.contains n
  if asProperty then
    match binaryByName? n with
    | some s => .ok s
    | none => .error .notFound
  else
    match categoryByName n with
    | .error .notFound =>
      if (scriptIndex? n).isSome then
        match scriptByName? n with
        | some s => .ok s
        | none => .error .valueNotFound
      else .error .notFound
    | r => r

/-- The set a valued property gives, or `valueNotFound`. -/
def found (s : Option CharSet) : Except PropertyError CharSet :=
  match s with
  | some s => .ok s
  | none => .error .valueNotFound

/-- A name with a value, such as `\p{sc=Greek}` or `\p{gc:Lu}`. A property the database defines
but that has no sets by value here gives `valueNotFound`, an unknown property `notFound`. -/
def valuedSet (name value : String) : Except PropertyError CharSet :=
  let n := looseName name
  let v := looseName value
  if n = "gc" ∨ n = "generalcategory" then found (categoryByName v).toOption
  else if n = "sc" ∨ n = "script" then found (scriptByName? v)
  else if n = "scx" ∨ n = "scriptextensions" then found (scriptExtensionByName? v)
  else if n = "age" then found (ageByName? v)
  else if n = "gcb" ∨ n = "graphemeclusterbreak" then
    found (breakByName? Ucd.graphemeClusterBreakValues Ucd.graphemeClusterBreakMap v)
  else if n = "wb" ∨ n = "wordbreak" then found (breakByName? Ucd.wordBreakValues Ucd.wordBreakMap v)
  else if n = "sb" ∨ n = "sentencebreak" then
    found (breakByName? Ucd.sentenceBreakValues Ucd.sentenceBreakMap v)
  else if Ucd.propertyNames.contains n then .error .valueNotFound
  else .error .notFound

end TableMachine.Regex
