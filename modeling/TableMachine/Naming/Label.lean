import TableMachine.Text.Case

/-!
# Labels of states

A notification name embeds the labels of the states it is about, and a `Capitalization` policy
says how a state identifier becomes a label:

* `firstLetter` upper-cases the first character (fully: `ß` becomes `SS`) and keeps the rest;
* `titleWords` lower-cases the whole identifier, splits it at spaces, drops empty words,
  capitalizes each word and joins them without separators (`double quote` becomes
  `DoubleQuote`).

`Capitalization.ofString?` accepts the spellings `first-letter`, `first_letter`, `first`,
`title-words`, `title_words` and `title`, in any case, and otherwise explains the refusal with
the lower-cased text.
-/

namespace TableMachine

open TableMachine.Text

/-- How state identifiers become labels inside notification names. -/
inductive Capitalization where
  | firstLetter
  | titleWords
  deriving DecidableEq, Repr, Inhabited

namespace Capitalization

/-- The label of a state identifier under a policy. -/
def label : Capitalization → String → String
  | .firstLetter, s => capitalize s
  | .titleWords, s =>
    String.join (((lower s).splitOn " ").filter (· ≠ "") |>.map capitalize)

/-- The canonical spelling of a policy. -/
def name : Capitalization → String
  | .firstLetter => "first-letter"
  | .titleWords => "title-words"

/-- The refusal of an unknown spelling, quoting its lower-cased form. -/
def unknownMessage (lowered : String) : String :=
  s!"unknown capitalization '{lowered}' (expected first-letter or title-words)"

/-- Reads a policy from any of its spellings, ignoring case. -/
def ofString? (s : String) : Except String Capitalization :=
  let t := lower s
  if t = "first-letter" ∨ t = "first_letter" ∨ t = "first" then .ok .firstLetter
  else if t = "title-words" ∨ t = "title_words" ∨ t = "title" then .ok .titleWords
  else .error (unknownMessage t)

end Capitalization

end TableMachine
