import TableMachine.Regex.Pattern

/-!
# Rule matchers

A rule's key is one of three kinds of matcher:

* `/body/flags`, where `flags` are drawn from `g`, `i` and `m`: a pattern, matched anywhere in
  the input; `i` makes it case-insensitive, `m` multi-line, and `g` changes nothing;
* the wildcard token (`_` by default): matches every input;
* anything else: a literal, matched by equality.

A key is split at its last `/`, so a body may itself contain `/`. A key shaped like a pattern is a
pattern even when it equals the wildcard token.
-/

namespace TableMachine

open Regex

/-- The three kinds of matcher. -/
inductive MatcherKind where
  | literal
  | pattern
  | wildcard
  deriving DecidableEq, Repr, Inhabited

/-- The name of a kind. -/
def MatcherKind.name : MatcherKind → String
  | .literal => "literal"
  | .pattern => "pattern"
  | .wildcard => "wildcard"

/-- A classified, compiled matcher; each keeps its key as authored. -/
inductive Matcher where
  | literal (key : String)
  | pattern (key : String) (compiled : Pattern)
  | wildcard (key : String)

/-- Body and flags of a key written as `/body/flags`, split at the last `/`. -/
def splitPattern (key : String) : Option (String × String) :=
  match key.toList with
  | '/' :: rest =>
    match rest.reverse.findIdx? (· = '/') with
    | some fromEnd =>
      let close := rest.length - 1 - fromEnd
      let flags := rest.drop (close + 1)
      if flags.all (fun c => c = 'g' ∨ c = 'i' ∨ c = 'm') then
        some (String.ofList (rest.take close), String.ofList flags)
      else none
    | none => none
  | _ => none

namespace Matcher

/-- Classifies a key under a wildcard token, compiling a pattern. -/
def classify (key wildcard : String) : Except PatternError Matcher :=
  match splitPattern key with
  | some (body, flags) => do
    let p ← Pattern.compile body (flags.contains 'i') (flags.contains 'm')
    return .pattern key p
  | none => if key = wildcard then .ok (.wildcard key) else .ok (.literal key)

/-- Whether the matcher accepts an input. -/
def accepts : Matcher → String → Bool
  | .literal key, input => key = input
  | .pattern _ p, input => p.isMatch input
  | .wildcard _, _ => true

/-- The kind of a matcher. -/
def kind : Matcher → MatcherKind
  | .literal _ => .literal
  | .pattern .. => .pattern
  | .wildcard _ => .wildcard

/-- The key as authored. -/
def key : Matcher → String
  | .literal k => k
  | .pattern k _ => k
  | .wildcard k => k

/-- Whether the matcher is the wildcard. -/
def isWildcard (m : Matcher) : Bool := m.kind = .wildcard

end Matcher

end TableMachine
