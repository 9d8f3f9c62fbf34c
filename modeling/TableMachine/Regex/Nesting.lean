import TableMachine.Regex.Syntax

/-!
# Nesting depth

A pattern may nest at most `nestLimit` levels deep. The levels are the nodes that hold other
nodes: groups, repetitions, concatenations, alternations and bracketed classes, and inside
brackets the nested brackets, the unions of two or more items and the class operations. A leaf
(a literal, `.`, an escape class, an assertion) adds no level.

The tree is walked in pre-order, left to right, and the refusal points at the first node met
that would be one level too deep; `Ast.nestError` finds it, and `Ast.checkNesting` refuses with
it. The check runs on a tree already read in full, so a pattern that is both malformed and too
deep is refused for being malformed.
-/

namespace TableMachine.Regex

/-- The deepest a pattern may nest. -/
def nestLimit : Nat := 250

mutual

/-- The first node too deep inside a class item, the item sitting `depth` levels down. -/
def ClassItem.nestError (depth : Nat) : ClassItem → Option Span
  | .bracketed _ set span => if nestLimit < depth + 1 then some span else set.nestError (depth + 1)
  | _ => none

/-- The first node too deep inside a class's contents, `depth` levels down. A union of one item
is that item; an empty union is a leaf. -/
def ClassSet.nestError (depth : Nat) : ClassSet → Option Span
  | .union [] _ => none
  | .union [item] _ => item.nestError depth
  | .union items span =>
    if nestLimit < depth + 1 then some span else ClassItem.nestErrorAll (depth + 1) items
  | .intersection lhs rhs span | .difference lhs rhs span | .symmetricDifference lhs rhs span =>
    if nestLimit < depth + 1 then some span
    else (lhs.nestError (depth + 1)).orElse fun _ => rhs.nestError (depth + 1)

/-- The first node too deep among class items, in order. -/
def ClassItem.nestErrorAll (depth : Nat) : List ClassItem → Option Span
  | [] => none
  | item :: rest => (item.nestError depth).orElse fun _ => ClassItem.nestErrorAll depth rest

end

mutual

/-- The first node too deep in a tree that sits `depth` levels down. -/
def Ast.nestError (depth : Nat) : Ast → Option Span
  | .repetition body _ _ span | .group _ body span =>
    if nestLimit < depth + 1 then some span else body.nestError (depth + 1)
  | .alternation items span | .concat items span =>
    if nestLimit < depth + 1 then some span else Ast.nestErrorAll (depth + 1) items
  | .bracketed _ set span => if nestLimit < depth + 1 then some span else set.nestError (depth + 1)
  | _ => none

/-- The first node too deep among trees, in order. -/
def Ast.nestErrorAll (depth : Nat) : List Ast → Option Span
  | [] => none
  | a :: rest => (a.nestError depth).orElse fun _ => Ast.nestErrorAll depth rest

end

/-- Refuses a tree that nests more than `nestLimit` levels deep. -/
def Ast.checkNesting (a : Ast) : Except Error Unit :=
  match a.nestError 0 with
  | some span => .error { kind := .nestLimitExceeded, span }
  | none => .ok ()

end TableMachine.Regex
