/-!
# Errors of registration
-/

namespace Packrat

/-- Why a grammar was not accepted. -/
inductive GrammarError where
  /-- Two registrations share a name. -/
  | duplicateRule (name : String)
  /-- The rule known as `rule` was to be registered as `name` too. -/
  | alreadyNamed (rule name : String)
  /-- The rule registered as `rule` contains a node whose tokens would have no
  name. -/
  | unnamedNode (rule : String)
  /-- The grammar or a rule was given no name. -/
  | emptyName
  /-- The root is not registered. -/
  | unknownRoot (name : String)
  /-- The grammar has no rules. -/
  | missingRoot
deriving DecidableEq, Repr

/-- What is wrong with the grammar. -/
def GrammarError.message : GrammarError → String
  | .duplicateRule name => "rule \x60" ++ name ++ "\x60 is registered twice"
  | .alreadyNamed rule name =>
    "rule \x60" ++ rule ++ "\x60 cannot also be registered as \x60" ++ name ++ "\x60"
  | .unnamedNode rule =>
    "rule \x60" ++ rule ++ "\x60 contains a node that is not registered"
  | .emptyName => "grammar and rule names must not be empty"
  | .unknownRoot name => "root rule \x60" ++ name ++ "\x60 is not registered"
  | .missingRoot => "grammar has no rules"

end Packrat
