import TableMachine.Unicode.CaseMap
import TableMachine.Unicode.Property

/-!
# Case mapping of characters and strings

`upperChar` and `lowerChar` give the full mapping of one character, which may be several
characters long (`ß` goes up to `SS`). `lower` maps a whole string: every character by its full
mapping, except that a capital sigma that ends a word becomes the final form `ς`.

> A capital sigma ends a word when the nearest character before it that is not case-ignorable is
> cased, and the nearest such character after it is not (or there is none).
-/

namespace TableMachine.Text

open TableMachine.Unicode

/-- The characters of a table entry. -/
private def ofCodes (cs : List Nat) : List Char := cs.map Char.ofNat

/-- The full upper-case mapping of a character. -/
def upperChar (c : Char) : List Char :=
  match upperMap.find? c.toNat with
  | some cs => ofCodes cs
  | none => [c]

/-- The full lower-case mapping of a character, without regard to its neighbours. -/
def lowerChar (c : Char) : List Char :=
  match lowerMap.find? c.toNat with
  | some cs => ofCodes cs
  | none => [c]

/-- Whether the first character of `cs` that is not case-ignorable is cased. -/
def casedPastIgnorable : List Char → Bool
  | [] => false
  | c :: rest => if caseIgnorable.contains c.toNat then casedPastIgnorable rest else cased.contains c.toNat

/-- Whether a capital sigma with `before` (nearest first) and `after` around it ends a word. -/
def endsWord (before after : List Char) : Bool :=
  casedPastIgnorable before && !casedPastIgnorable after

/-- Lower-cases a list of characters, `before` holding what precedes it, nearest first. -/
def lowerFrom (before : List Char) : List Char → List Char
  | [] => []
  | c :: after =>
    let here := if c = 'Σ' then (if endsWord before after then ['ς'] else ['σ']) else lowerChar c
    here ++ lowerFrom (c :: before) after

/-- The lower-case form of a string, final sigma included. -/
def lower (s : String) : String := String.ofList (lowerFrom [] s.toList)

/-- Upper-cases the first character of a string and keeps the rest as it is. -/
def capitalize (s : String) : String :=
  match s.toList with
  | [] => ""
  | c :: rest => String.ofList (upperChar c ++ rest)

end TableMachine.Text
