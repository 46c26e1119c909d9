import Packrat.Grammar.Arithmetic
import Packrat.Grammar.JsonValue

/-!
# The catalog of grammars

The grammars that come with the library, with the names by which they are found.
Their recursive rules stand for the rules registered under their keys.
-/

namespace Packrat

mutual

/-- The recursive rules inside a rule, by identity and key. -/
def Rule.references : Rule → List (RuleId × String)
  | .recursive id key => [(id, key)]
  | .seq _ rules | .choice _ rules => referencesAll rules
  | .notAhead _ r | .ahead _ r | .zeroOrMore _ r | .oneOrMore _ r | .opt _ r | .node _ r =>
    references r
  | .char .. | .literal .. | .regex .. | .endOfInput _ => []

/-- The recursive rules inside several rules. -/
def Rule.referencesAll : List Rule → List (RuleId × String)
  | [] => []
  | r :: rest => references r ++ referencesAll rest

end

/-- The targets of recursive rules by identity. -/
abbrev Targets := Std.HashMap RuleId Rule

/-- The recursive rules of a grammar with the rules that their keys name. -/
def Grammar.targets (g : Grammar) : List (RuleId × Rule) :=
  (g.rules.flatMap fun (_, rule) => rule.references).filterMap fun (id, key) =>
    (g.rule? key).map fun rule => (id, rule)

/-- Grammars with what is known of their rules. -/
structure Catalog where
  /-- Each grammar with the names by which it is found. -/
  entries : List (List String × Grammar)
  names : Names
  targets : Targets
  /-- The first identity that no rule of the catalog has. -/
  supply : RuleId

namespace Catalog

/-- The catalog without grammars. -/
def empty : Catalog := ⟨[], ∅, ∅, 0⟩

/-- The catalog with one grammar more, or as it was if the rules cannot be built
or registered. -/
def add {α : Type} (catalog : Catalog) (aliases : List String) (rules : Builder α)
    (draft : α → Draft) : Catalog :=
  match rules catalog.supply with
  | .error _ => catalog
  | .ok (built, supply) =>
    match (draft built).build catalog.names with
    | (.error _, _) => catalog
    | (.ok grammar, names) =>
      { entries := catalog.entries ++ [(aliases, grammar)]
        names
        targets := catalog.targets.insertMany grammar.targets
        supply }

/-- The grammars of arithmetic expressions and JSON values. -/
def standard : Catalog :=
  (empty.add ["arithmetic", "arith", "expr", "expression"] Arithmetic.rules (·.draft)).add
    ["json"] JsonValue.rules (·.draft)

/-- The grammar with the given name, in upper or lower case. -/
def find? (catalog : Catalog) (name : String) : Option Grammar :=
  let lower := String.ofList (name.toList.map Char.toLower)
  (catalog.entries.find? fun (aliases, _) => aliases.contains lower).map (·.2)

/-- Every grammar. -/
def grammars (catalog : Catalog) : List Grammar := catalog.entries.map (·.2)

end Catalog

end Packrat
