import Packrat.Grammar.Basic
import Packrat.Grammar.Lexical

/-!
# Arithmetic expressions

```text
Arithmetic <- blanks Expression END
Expression <- SimpleExpr (BinaryOp blanks SimpleExpr)*
SimpleExpr <- PrefixExpr / Number blanks / '(' blanks Expression ')' blanks
PrefixExpr <- PrefixOp blanks SimpleExpr
```

Operators have no precedence: `1 + 2 * 3` is one flat `Expression` with five
children. Without blanks in front, the root of a tree is the `Expression`
itself; with them it is an `Arithmetic` token around it.
-/

namespace Packrat

namespace Arithmetic

open Builder Lexical

/-- The binary operators. A longer one stands before any that it starts with. -/
def binaryOperators : List String :=
  ["**", "<<", ">>", "<=", ">=", "==", "!=", "&&", "||", "*", "/", "%", "+", "-", "<",
   ">", "&", "|", "^"]

/-- The operators that stand before an operand. -/
def unaryOperators : List String := ["-", "+", "!", "~"]

/-- The rules of the grammar. -/
structure Rules where
  arithmetic : Rule
  expression : Rule
  simpleExpr : Rule
  unaryExpr : Rule
  unaryOp : Rule
  binaryOp : Rule
  number : Rule

/-- Any of the given operators, the first that matches. -/
def operators (table : List String) : Builder Rule := do
  choice (← table.mapM literal)

/-- Builds the rules. The keys of recursive rules are the names that the rules
get in the grammar. -/
def rules : Builder Rules := do
  let number ← node (← choice [← float, ← integer])
  let binaryOp ← node (← operators binaryOperators)
  let unaryOp ← node (← operators unaryOperators)
  let unaryExpr ← node (← seq [← lexeme unaryOp, ← recursive "SimpleExpr"])
  let group ← seq [← symbol "(", ← recursive "Expression", ← symbol ")"]
  let simpleExpr ← choice [unaryExpr, ← lexeme number, group]
  let further ← seq [← lexeme binaryOp, simpleExpr]
  let expression ← node (← seq [simpleExpr, ← zeroOrMore further])
  let arithmetic ← seq [← blanks, expression, ← endOfInput]
  return ⟨arithmetic, expression, simpleExpr, unaryExpr, unaryOp, binaryOp, number⟩

/-- The registrations of the grammar. -/
def Rules.draft (r : Rules) : Draft where
  name := "arithmetic"
  rules := [("Arithmetic", r.arithmetic), ("Expression", r.expression),
    ("SimpleExpr", r.simpleExpr), ("PrefixExpr", r.unaryExpr), ("PrefixOp", r.unaryOp),
    ("BinaryOp", r.binaryOp), ("Number", r.number)]
  root := none

end Arithmetic

end Packrat
