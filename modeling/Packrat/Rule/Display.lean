import Packrat.Rule.Basic

/-!
# Rules in writing

Rules are shown in the notation of parsing expression grammars:

```text
'lit'  [abc]  [a-z]  [^abc]  .  <letter>  /re/  END
a b    a / b  !a  &a  a*  a+  a?  @Name(a)
```

`Rule.display` expands the rule that it is given. Below it, a rule that has a
name is shown by that name, so the text of a recursive grammar is finite. An
operand that binds no tighter than its context stands in parentheses.

Showing a recursive rule asks the scope what it stands for. `Rule.consulted`
lists the recursive rules for which that happens.
-/

namespace Packrat

/-! ## Characters -/

/-- The form of `c`, where the characters of `special` need a backslash. -/
def escapedChar (special : List Char) (c : Char) : List Char :=
  if c = '\n' then ['\\', 'n']
  else if c = '\r' then ['\\', 'r']
  else if c = '\t' then ['\\', 't']
  else if c = '\\' then ['\\', '\\']
  else if special.contains c then ['\\', c]
  else [c]

/-- `text` in single quotes. -/
def quotedLiteral (text : List Char) : String :=
  String.ofList (['\x27'] ++ text.flatMap (escapedChar ['\x27']) ++ ['\x27'])

/-- Characters as they stand in brackets. -/
def bracketed (text : List Char) : String :=
  String.ofList (text.flatMap (escapedChar [']', '-', '^']))

/-- The notation of a character class. -/
def CharClass.display : CharClass → String
  | .single c => quotedLiteral [c]
  | .oneOf chars => "[" ++ bracketed chars.toList ++ "]"
  | .range lo hi => "[" ++ bracketed [lo] ++ "-" ++ bracketed [hi] ++ "]"
  | .noneOf chars => "[^" ++ bracketed chars.toList ++ "]"
  | .any => "."
  | .satisfying label _ => "<" ++ label ++ ">"

namespace Rule

/-! ## Grouping -/

/-- How tightly a rule's notation holds together, loosest first. -/
inductive Strength where
  | choice
  | seq
  | ahead
  | repeated
  | atom
deriving DecidableEq, Repr

/-- The place of a strength in the order. -/
def Strength.rank : Strength → Nat
  | .choice => 0
  | .seq => 1
  | .ahead => 2
  | .repeated => 3
  | .atom => 4

/-- How tightly the notation of a rule holds together. -/
def strength : Rule → Strength
  | .choice .. => .choice
  | .seq _ [_] => .atom
  | .seq .. => .seq
  | .notAhead .. | .ahead .. => .ahead
  | .zeroOrMore .. | .oneOrMore .. | .opt .. => .repeated
  | .char .. | .literal .. | .regex .. | .endOfInput _ | .node .. | .recursive .. => .atom

/-- Whether `rule` needs parentheses where only notation stronger than `limit`
may stand. -/
def needsParens (limit : Option Strength) (rule : Rule) : Bool :=
  match limit with
  | none => false
  | some limit => rule.strength.rank ≤ limit.rank

/-- A sub-rule: its name if it has one, else `definition`, in parentheses where
`limit` asks for them. -/
def operandText (scope : Scope) (limit : Option Strength) (rule : Rule)
    (definition : Unit → String) : String :=
  match scope.name rule.id with
  | some name => name
  | none => if needsParens limit rule then "(" ++ definition () ++ ")" else definition ()

/-! ## Notation -/

mutual

/-- The notation of a rule, the rule itself expanded. -/
def display (scope : Scope) : Rule → String
  | .char _ accepted => accepted.display
  | .literal _ text => quotedLiteral text.toList
  | .regex _ expression => "/" ++ expression.pattern ++ "/"
  | .endOfInput _ => "END"
  | .seq _ [] => "()"
  | .seq _ rules => " ".intercalate (displayAll scope .seq rules)
  | .choice _ rules => " / ".intercalate (displayAll scope .choice rules)
  | .notAhead _ r => "!" ++ operandText scope (some .seq) r fun _ => display scope r
  | .ahead _ r => "&" ++ operandText scope (some .seq) r fun _ => display scope r
  | .zeroOrMore _ r => operandText scope (some .repeated) r (fun _ => display scope r) ++ "*"
  | .oneOrMore _ r => operandText scope (some .repeated) r (fun _ => display scope r) ++ "+"
  | .opt _ r => operandText scope (some .repeated) r (fun _ => display scope r) ++ "?"
  | .node id r =>
    "@" ++ (scope.name id).getD "" ++ "("
      ++ operandText scope none r (fun _ => display scope r) ++ ")"
  | .recursive id key =>
    match (scope.target id key).bind fun target => scope.name target.id with
    | some name => name
    | none => "<recursive>"

/-- The notation of each operand of a list that holds together by `own`. -/
def displayAll (scope : Scope) (own : Strength) : List Rule → List String
  | [] => []
  | r :: rest =>
    operandText scope (some own) r (fun _ => display scope r) :: displayAll scope own rest

end

/-- What a failed primitive or lookahead wanted. -/
def describe (scope : Scope) (rule : Rule) : String :=
  match rule with
  | .char _ .any => "any character"
  | .endOfInput _ => "end of input"
  | rule => rule.display scope

/-- The rule with its name. -/
def debug (scope : Scope) (rule : Rule) : String :=
  match scope.name rule.id with
  | some name => "Rule(" ++ name ++ " <- " ++ rule.display scope ++ ")"
  | none => "Rule(" ++ rule.display scope ++ ")"

/-! ## Consultation -/

mutual

/-- The recursive rules, by identity and key, whose targets `display` asks for,
in that order. -/
def consulted (scope : Scope) : Rule → List (RuleId × String)
  | .seq _ rules | .choice _ rules => consultedAll scope rules
  | .notAhead _ r | .ahead _ r | .zeroOrMore _ r | .oneOrMore _ r
  | .opt _ r | .node _ r =>
    match scope.name r.id with
    | some _ => []
    | none => consulted scope r
  | .recursive id key => [(id, key)]
  | .char .. | .literal .. | .regex .. | .endOfInput _ => []

/-- The recursive rules that the operands of a list ask for. -/
def consultedAll (scope : Scope) : List Rule → List (RuleId × String)
  | [] => []
  | r :: rest =>
    (match scope.name r.id with
      | some _ => []
      | none => consulted scope r) ++ consultedAll scope rest

end

end Rule

end Packrat
