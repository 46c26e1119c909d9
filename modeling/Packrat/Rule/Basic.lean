import Packrat.Regex.Basic

/-!
# Rules

A `Rule` is a node of a grammar: a primitive that reads input, or a combinator
over other rules. Every node carries an identity, and nodes with one identity
are one rule. Names and the targets of recursive rules are not part of the
node: a `Scope` says, for an identity, what the rule is called and what it
stands for.
-/

namespace Packrat

/-- The identity of a rule. -/
abbrev RuleId := Nat

/-! ## Character classes -/

/-- What a single-character rule accepts. -/
inductive CharClass where
  | single (c : Char)
  | oneOf (chars : String)
  | range (lo hi : Char)
  | noneOf (chars : String)
  | any
  /-- The characters that satisfy `test`; `label` names the class. -/
  | satisfying (label : String) (test : Char → Bool)

/-- Whether the class holds `c`. -/
def CharClass.accepts : CharClass → Char → Bool
  | .single expected, c => c == expected
  | .oneOf chars, c => chars.toList.contains c
  | .range lo hi, c => decide (lo ≤ c) && decide (c ≤ hi)
  | .noneOf chars, c => !chars.toList.contains c
  | .any, _ => true
  | .satisfying _ test, c => test c

/-! ## Rules -/

/-- A grammar node with its identity. -/
inductive Rule where
  /-- One character of a class. -/
  | char (id : RuleId) (accepted : CharClass)
  /-- The given text. -/
  | literal (id : RuleId) (text : String)
  /-- A match of a regular expression that starts here. -/
  | regex (id : RuleId) (expression : Regex)
  /-- The end of the input. -/
  | endOfInput (id : RuleId)
  /-- All operands in order. -/
  | seq (id : RuleId) (operands : List Rule)
  /-- The first alternative that matches. -/
  | choice (id : RuleId) (alternatives : List Rule)
  /-- Nothing, where the operand does not match. -/
  | notAhead (id : RuleId) (operand : Rule)
  /-- Nothing, where the operand matches. -/
  | ahead (id : RuleId) (operand : Rule)
  | zeroOrMore (id : RuleId) (operand : Rule)
  | oneOrMore (id : RuleId) (operand : Rule)
  | opt (id : RuleId) (operand : Rule)
  /-- What the operand matches, captured as a token. -/
  | node (id : RuleId) (operand : Rule)
  /-- The rule that `key` stands for. -/
  | recursive (id : RuleId) (key : String)

namespace Rule

/-- The identity of the rule. -/
def id : Rule → RuleId
  | .char id _ | .literal id _ | .regex id _ | .endOfInput id
  | .seq id _ | .choice id _ | .notAhead id _ | .ahead id _
  | .zeroOrMore id _ | .oneOrMore id _ | .opt id _ | .node id _
  | .recursive id _ => id

/-- The direct sub-rules. What a recursive rule stands for is not one. -/
def operands : Rule → List Rule
  | .seq _ rules | .choice _ rules => rules
  | .notAhead _ r | .ahead _ r | .zeroOrMore _ r | .oneOrMore _ r
  | .opt _ r | .node _ r => [r]
  | .char .. | .literal .. | .regex .. | .endOfInput _ | .recursive .. => []

/-- Whether the rule captures a token. -/
def isNode : Rule → Bool
  | .node .. => true
  | _ => false

end Rule

/-! ## Scopes -/

/-- What is known of rules by their identity. -/
structure Scope where
  /-- The name that a grammar has given to the rule. -/
  name : RuleId → Option String
  /-- The rule that the recursive rule with this identity and key stands for. -/
  target : RuleId → String → Option Rule

/-- The scope that knows nothing. -/
def Scope.empty : Scope := ⟨fun _ => none, fun _ _ => none⟩

end Packrat
