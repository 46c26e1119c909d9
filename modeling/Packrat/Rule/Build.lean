import Packrat.Breach
import Packrat.Regex
import Packrat.Rule.Basic

/-!
# Building rules

Every constructor makes a new rule, with an identity that no rule made before
has. The `Builder` hands out identities in order and stops at the first
constructor whose precondition fails or whose regular expression does not
compile.
-/

namespace Packrat

/-- Why no rule was built. -/
inductive BuildError where
  | breach (breach : Breach)
  | invalidRegex (pattern : String) (error : Regex.Error)
deriving DecidableEq, Repr

/-- What a regular expression that does not compile says. -/
def invalidRegexMessage (pattern : String) (error : Regex.Error) : String :=
  "invalid regex \x60" ++ pattern ++ "\x60: " ++ error.message

/-- A construction of rules, which takes identities from a supply. -/
abbrev Builder := StateT RuleId (Except BuildError)

namespace Builder

/-- An identity that was not handed out before. -/
def fresh : Builder RuleId := modifyGet fun id => (id, id + 1)

/-- Stops the construction. -/
def refuse {α : Type} (breach : Breach) : Builder α := throw (.breach breach)

/-! ## Primitives -/

/-- The character `c`. -/
def ch (c : Char) : Builder Rule := return .char (← fresh) (.single c)

/-- Any character of `chars`, which must not be empty. -/
def oneOf (chars : String) : Builder Rule := do
  if chars.isEmpty then refuse .emptyCharSet
  return .char (← fresh) (.oneOf chars)

/-- Any character that is not in `chars`, which must not be empty. -/
def noneOf (chars : String) : Builder Rule := do
  if chars.isEmpty then refuse .emptyCharSet
  return .char (← fresh) (.noneOf chars)

/-- Any character from `lo` to `hi`, which must not be inverted. -/
def range (lo hi : Char) : Builder Rule := do
  if hi < lo then refuse (.invertedRange lo hi)
  return .char (← fresh) (.range lo hi)

/-- Any character. -/
def any : Builder Rule := return .char (← fresh) .any

/-- Any character for which `test` holds. `label` names the class. -/
def satisfy (label : String) (test : Char → Bool) : Builder Rule :=
  return .char (← fresh) (.satisfying label test)

/-- The text `text`, which must not be empty. -/
def literal (text : String) : Builder Rule := do
  if text.isEmpty then refuse .emptyLiteral
  return .literal (← fresh) text

/-- A match of `pattern` at the current position. -/
def regex (pattern : String) : Builder Rule := do
  match Regex.compile pattern with
  | .ok expression => return .regex (← fresh) expression
  | .error error => throw (.invalidRegex pattern error)

/-- The end of the input. -/
def endOfInput : Builder Rule := return .endOfInput (← fresh)

/-! ## Combinators -/

/-- All of `rules` in order. Without rules it matches nothing, anywhere. -/
def seq (rules : List Rule) : Builder Rule := return .seq (← fresh) rules

/-- The first of `rules` that matches. There must be one. -/
def choice (rules : List Rule) : Builder Rule := do
  if rules.isEmpty then refuse .noAlternatives
  return .choice (← fresh) rules

/-- Where `rule` does not match. -/
def notAhead (rule : Rule) : Builder Rule := return .notAhead (← fresh) rule

/-- Where `rule` matches. -/
def ahead (rule : Rule) : Builder Rule := return .ahead (← fresh) rule

/-- `rule` any number of times. -/
def zeroOrMore (rule : Rule) : Builder Rule := return .zeroOrMore (← fresh) rule

/-- `rule` at least once. -/
def oneOrMore (rule : Rule) : Builder Rule := return .oneOrMore (← fresh) rule

/-- `rule`, if it matches. -/
def opt (rule : Rule) : Builder Rule := return .opt (← fresh) rule

/-- What `rule` matches, as a token. -/
def node (rule : Rule) : Builder Rule := return .node (← fresh) rule

/-- The rule that `key` will stand for when this one is first used. -/
def recursive (key : String) : Builder Rule := return .recursive (← fresh) key

end Builder

end Packrat
