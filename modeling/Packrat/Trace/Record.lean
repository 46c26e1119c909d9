import Packrat.Parse.Event
import Packrat.Rule.Display

/-!
# Events by label

A rule in a record of events goes by its label: its name, or its notation.
-/

namespace Packrat

/-- The name of the rule, or its notation. -/
def Rule.label (scope : Scope) (rule : Rule) : String :=
  (scope.name rule.id).getD (rule.display scope)

/-- The recursive rules that `Rule.label` asks for. -/
def Rule.consultedByLabel (scope : Scope) (rule : Rule) : List (RuleId × String) :=
  if (scope.name rule.id).isSome then [] else rule.consulted scope

/-- The recursive rules that a record of the event asks for. -/
def Event.consultedByLabel (scope : Scope) : Event → List (RuleId × String)
  | .enter rule _ | .exit rule _ _ | .memoHit rule _ _ | .stalled rule _ =>
    rule.consultedByLabel scope
  | .token _ | .backtrack .. | .resolved .. => []

end Packrat
