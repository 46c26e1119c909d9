import Packrat.Grammar.Catalog
import Packrat.Parse.Parser
import Packrat.Trace.Lines
import Packrat.Trace.Record

/-!
# Workspaces

A `Workspace` is where rules are built, named and used: it hands out identities,
keeps the names that grammars have bound, and holds rules under handles.

A recursive rule refers to a handle. What the handle stands for when the rule is
first used, by a parse or by being shown, is what the rule stands for from then
on; a handle that stands for nothing breaks that use and nothing else.
-/

namespace Packrat

/-- Rules under construction, and what is known of them. -/
structure Workspace where
  /-- The next identity. -/
  supply : RuleId
  names : Names
  /-- The recursive rules that have been used, with what they stand for. -/
  targets : Targets
  /-- Rules under handles. -/
  handles : Std.HashMap String Rule

namespace Workspace

/-- The workspace of a catalog, without handles. -/
def ofCatalog (catalog : Catalog) : Workspace :=
  ⟨catalog.supply, catalog.names, catalog.targets, ∅⟩

/-- What is known of rules at this point. -/
def scope (ws : Workspace) : Scope where
  name id := ws.names[id]?
  target id key := ws.targets[id]?.or ws.handles[key]?

/-! ## Building -/

/-- Builds rules with new identities. -/
def build {α : Type} (ws : Workspace) (builder : Builder α) :
    Except BuildError (α × Workspace) :=
  match builder ws.supply with
  | .ok (built, supply) => .ok (built, { ws with supply })
  | .error error => .error error

/-- Puts `rule` under `handle`. -/
def define (ws : Workspace) (handle : String) (rule : Rule) : Workspace :=
  { ws with handles := ws.handles.insert handle rule }

/-- Makes a grammar of a draft, which binds the names of its rules. -/
def register (ws : Workspace) (draft : Draft) : Except GrammarError Grammar × Workspace :=
  let (result, names) := draft.build ws.names
  (result, { ws with names })

/-! ## Recursive rules -/

/-- Fixes what the recursive rule `id` stands for, unless it is fixed already. -/
def fix (ws : Workspace) (id : RuleId) (target : Rule) : Workspace :=
  { ws with targets := ws.targets.insertIfNew id target }

/-- Asks what recursive rules stand for, up to the first that stands for
nothing. -/
def consult (ws : Workspace) : List (RuleId × String) → Except Breach Unit × Workspace
  | [] => (.ok (), ws)
  | (id, key) :: rest =>
    match ws.scope.target id key with
    | some target => consult (ws.fix id target) rest
    | none => (.error (.unresolved key), ws)

/-- Follows a parse whose events are written down while it runs. `consulted`
gives the recursive rules that writing an event asks for. -/
def follow (ws : Workspace) (consulted : Event → List (RuleId × String)) :
    List Event → Except Breach Unit × Workspace
  | [] => (.ok (), ws)
  | event :: rest =>
    match ws.consult (consulted event) with
    | (.error breach, ws) => (.error breach, ws)
    | (.ok (), ws) =>
      match event with
      | .resolved id target => follow (ws.fix id target) consulted rest
      | _ => follow ws consulted rest

/-- Parses `input`. `consulted` gives the recursive rules that writing down an
event asks for. -/
def parse (ws : Workspace) (parser : Parser) (input : String) (complete : Bool)
    (consulted : Event → List (RuleId × String)) : Parser.Report × Workspace :=
  let report := parser.run ws.scope input complete
  match ws.follow consulted report.events with
  | (.ok (), ws) => (report, ws)
  | (.error breach, ws) => ({ report with result := .error breach }, ws)

end Workspace

end Packrat
