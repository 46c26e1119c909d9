import Packrat.Regex.Modes
import Packrat.Unicode.CodeSet

/-!
# Regular expressions as written

An `Expression` is what a pattern says before its modes give it a meaning: a
dot is still a dot, and a switch such as `(?i)` stands where it was written. A
`SetExpression` is what stands for one character out of a set.

- `Expression.nesting`: how deep a pattern nests, which is limited.
-/

namespace Packrat

namespace Regex

open Unicode (CodeSet)

/-- A character of a pattern that stands for itself. `isByte` tells that it was
written as `\xNN`, which names a byte where Unicode is off. -/
structure Literal where
  char : Char
  isByte : Bool := false
deriving DecidableEq, Repr

/-- The sets that `\d`, `\s` and `\w` stand for. -/
inductive Shorthand where
  | digit
  | space
  | word
deriving DecidableEq, Repr

/-- How two sets are joined within brackets. -/
inductive SetOperator where
  /-- `&&` -/
  | intersection
  /-- `--` -/
  | difference
  /-- `~~` -/
  | symmetricDifference
deriving DecidableEq, Repr

/-- What stands for one character out of a set. -/
inductive SetExpression where
  /-- Nothing, as on the right of `[a&&]`. -/
  | empty
  | literal (literal : Literal)
  | range (first last : Literal)
  /-- `\d` and the like; `\D` is negated. -/
  | shorthand (shorthand : Shorthand) (negated : Bool)
  /-- `[:alpha:]` and the like, a set of ASCII characters. -/
  | posix (members : CodeSet) (negated : Bool)
  /-- `\p{Greek}` and the like; `\P{Greek}` is negated. -/
  | property (members : CodeSet) (negated : Bool)
  | bracketed (negated : Bool) (inner : SetExpression)
  | union (items : List SetExpression)
  | binary (operator : SetOperator) (left right : SetExpression)

/-- The place relative to words that an edge assertion asks for. -/
inductive WordEdge where
  /-- `\b`: a word starts or ends here. -/
  | boundary
  /-- `\B`: no word starts or ends here. -/
  | noBoundary
  /-- `\b{start}`: a word starts here. -/
  | start
  /-- `\b{end}`: a word ends here. -/
  | finish
  /-- `\b{start-half}`: no word stands before. -/
  | startHalf
  /-- `\b{end-half}`: no word stands after. -/
  | finishHalf
deriving DecidableEq, Repr

/-- An assertion, which matches a place and no character. -/
inductive Anchor where
  /-- `^` -/
  | lineStart
  /-- `$` -/
  | lineEnd
  /-- `\A` -/
  | textStart
  /-- `\z` -/
  | textEnd
  | word (edge : WordEdge)
deriving DecidableEq, Repr

/-- A regular expression as written. -/
inductive Expression where
  | empty
  /-- `(?flags)`, which holds up to the end of the group it stands in. -/
  | switch (changes : FlagChanges)
  | literal (literal : Literal)
  | dot
  | anchor (anchor : Anchor)
  /-- One character out of a set. -/
  | oneOf (set : SetExpression)
  /-- At least `least` and at most `most?` times, as often as possible if
  `greedy`. -/
  | repetition (operand : Expression) (least : Nat) (most? : Option Nat) (greedy : Bool)
  /-- A group with modes of its own. -/
  | group (changes : FlagChanges) (inner : Expression)
  /-- At least two items, one after the other. -/
  | concatenation (items : List Expression)
  /-- At least two branches, the earlier ones preferred. -/
  | alternation (branches : List Expression)

/-! ## Nesting -/

mutual

/-- How many brackets, unions and operators enclose the innermost item. -/
def SetExpression.nesting : SetExpression → Nat
  | .bracketed _ inner => inner.nesting + 1
  | .union items => SetExpression.deepest items + 1
  | .binary _ left right => max left.nesting right.nesting + 1
  | _ => 0

/-- The nesting of the item that nests deepest. -/
def SetExpression.deepest : List SetExpression → Nat
  | [] => 0
  | item :: items => max item.nesting (SetExpression.deepest items)

end

mutual

/-- How many groups, repetitions, concatenations, alternations and brackets
enclose the innermost item. -/
def Expression.nesting : Expression → Nat
  | .oneOf set => set.nesting
  | .repetition operand _ _ _ => operand.nesting + 1
  | .group _ inner => inner.nesting + 1
  | .concatenation items => Expression.deepest items + 1
  | .alternation branches => Expression.deepest branches + 1
  | _ => 0

/-- The nesting of the item that nests deepest. -/
def Expression.deepest : List Expression → Nat
  | [] => 0
  | item :: items => max item.nesting (Expression.deepest items)

end

/-- The deepest nesting that is allowed. -/
def nestingLimit : Nat := 250

/-- The expression that matches `items` one after the other. -/
def Expression.ofItems : List Expression → Expression
  | [] => .empty
  | [item] => item
  | items => .concatenation items

/-- The expression that matches one of `branches`. -/
def Expression.ofBranches : List Expression → Expression
  | [] => .empty
  | [branch] => branch
  | branches => .alternation branches

/-- The set of the members of any of `items`. -/
def SetExpression.ofItems : List SetExpression → SetExpression
  | [] => .empty
  | [item] => item
  | items => .union items

end Regex

end Packrat
