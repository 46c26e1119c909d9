import Packrat.Grammar.Error
import Packrat.Rule.Display
import Packrat.Text.Inspect
import Std.Data.HashMap
import Std.Data.HashSet

/-!
# Grammars

A `Grammar` is a table from names to rules with one of them as its root.
Registering a rule binds its name for good: tokens of nodes carry it, and the
notation of other rules refers to it.

`Draft.build` checks all registrations before it binds the first name, so a
draft that is refused leaves every rule as it was. The checks, in order:

1. the grammar and every rule has a name that is not empty;
2. no rule already has another name;
3. no two registrations share a name, and no rule is registered twice;
4. every node inside a registered rule has a name or gets one here. What a
   recursive rule stands for is not looked at, since it may not exist yet;
5. the root is registered.
-/

namespace Packrat

/-- The names of rules by identity. -/
abbrev Names := Std.HashMap RuleId String

/-- A table of named rules with a root. -/
structure Grammar where
  name : String
  /-- The registered rules, in the order of registration. -/
  rules : List (String × Rule)
  rootName : String
  root : Rule

/-- Registrations that wait to become a grammar. -/
structure Draft where
  name : String
  rules : List (String × Rule)
  /-- The name of the root; without one, the first rule is the root. -/
  root : Option String

namespace Draft

/-! ## Checks -/

/-- Checks the names of registrations one by one. `earlier` holds the names of
those before them. -/
def checkNames (names : Names) (earlier : List String) :
    List (String × Rule) → Except GrammarError Unit
  | [] => .ok ()
  | (name, rule) :: rest =>
    if name.isEmpty then .error .emptyName
    else
      match names[rule.id]? with
      | some bound =>
        if bound ≠ name then .error (.alreadyNamed bound name)
        else checkNew name rest
      | none => checkNew name rest
where
  /-- Checks that `name` is new, then the registrations after it. -/
  checkNew (name : String) (rest : List (String × Rule)) : Except GrammarError Unit :=
    if earlier.contains name then .error (.duplicateRule name)
    else checkNames names (name :: earlier) rest

/-- Checks that no rule is registered twice. `earlier` holds the registrations
before these, the first one first. -/
def checkIdentities (earlier : List (String × Rule)) :
    List (String × Rule) → Except GrammarError Unit
  | [] => .ok ()
  | (name, rule) :: rest =>
    match earlier.find? fun (_, other) => other.id == rule.id with
    | some (first, _) => .error (.alreadyNamed first name)
    | none => checkIdentities (earlier ++ [(name, rule)]) rest

end Draft

mutual

/-- Looks for nodes whose identity is not `settled`, in the rule and all that it is
made of. There are none in the rules of `clear`, so these are not entered; a rule
that is shared is thus entered once. Gives `clear` and the rules that were entered,
or nothing if there is such a node. -/
def Rule.clearOf? (settled : RuleId → Bool) :
    Rule → Std.HashSet RuleId → Option (Std.HashSet RuleId)
  | .node id r, clear =>
    if clear.contains id then some clear
    else if settled id then (clearOf? settled r clear).map (·.insert id)
    else none
  | .seq id rules, clear | .choice id rules, clear =>
    if clear.contains id then some clear
    else (clearOfAll? settled rules clear).map (·.insert id)
  | .notAhead id r, clear | .ahead id r, clear | .zeroOrMore id r, clear
  | .oneOrMore id r, clear | .opt id r, clear =>
    if clear.contains id then some clear
    else (clearOf? settled r clear).map (·.insert id)
  | .char .., clear | .literal .., clear | .regex .., clear | .endOfInput _, clear
  | .recursive .., clear => some clear

/-- Looks for nodes that are not `settled` in several rules. -/
def Rule.clearOfAll? (settled : RuleId → Bool) :
    List Rule → Std.HashSet RuleId → Option (Std.HashSet RuleId)
  | [], clear => some clear
  | r :: rest, clear => (clearOf? settled r clear).bind (clearOfAll? settled rest ·)

end

namespace Draft

/-- Whether a node with this identity has a name or is registered. -/
def settles (names : Names) (rules : List (String × Rule)) (id : RuleId) : Bool :=
  names.contains id || rules.any fun (_, rule) => rule.id == id

/-- Checks that every node inside a registered rule is `settled`. `clear` holds
rules in which that is so. -/
def checkNodes (settled : RuleId → Bool) (clear : Std.HashSet RuleId) :
    List (String × Rule) → Except GrammarError Unit
  | [] => .ok ()
  | (name, rule) :: rest =>
    match rule.clearOf? settled clear with
    | some clear => checkNodes settled clear rest
    | none => .error (.unnamedNode name)

/-- The root: the rule of the given name, or else the first one. -/
def chooseRoot (rules : List (String × Rule)) :
    Option String → Except GrammarError (String × Rule)
  | some name =>
    match rules.lookup name with
    | some rule => .ok (name, rule)
    | none => .error (.unknownRoot name)
  | none =>
    match rules with
    | first :: _ => .ok first
    | [] => .error .missingRoot

/-- All checks, which give the root. -/
def check (draft : Draft) (names : Names) : Except GrammarError (String × Rule) := do
  if draft.name.isEmpty then throw .emptyName
  checkNames names [] draft.rules
  checkIdentities [] draft.rules
  checkNodes (settles names draft.rules) ∅ draft.rules
  chooseRoot draft.rules draft.root

/-! ## Binding -/

/-- Binds the names of the registered rules. A rule keeps a name that it has,
which must be the one it is registered under. -/
def bind (names : Names) : List (String × Rule) → Except GrammarError Unit × Names
  | [] => (.ok (), names)
  | (name, rule) :: rest =>
    -- two registrations of one rule were refused, so a name found here was there before
    match names[rule.id]? with
    | none => bind (names.insert rule.id name) rest
    | some bound =>
      if bound = name then bind names rest else (.error (.alreadyNamed bound name), names)

/-- The grammar of the draft, and the names of rules after it. -/
def build (draft : Draft) (names : Names) : Except GrammarError Grammar × Names :=
  match draft.check names with
  | .error error => (.error error, names)
  | .ok (rootName, root) =>
    match bind names draft.rules with
    | (.error error, names) => (.error error, names)
    | (.ok (), names) => (.ok ⟨draft.name, draft.rules, rootName, root⟩, names)

end Draft

namespace Grammar

/-- The rule registered as `name`. -/
def rule? (g : Grammar) (name : String) : Option Rule := g.rules.lookup name

/-- The number of registered rules. -/
def size (g : Grammar) : Nat := g.rules.length

/-- Whether the grammar has no rules. -/
def isEmpty (g : Grammar) : Bool := g.rules.isEmpty

/-- Every rule as `name <- notation` on a line of its own. -/
def dump (scope : Scope) (g : Grammar) : String :=
  String.join (g.rules.map fun (name, rule) =>
    name ++ " <- " ++ rule.display scope ++ "\n")

/-- The record of a grammar. -/
def inspect (scope : Scope) (g : Grammar) : Text.Inspect :=
  .record "Grammar" [("name", .string g.name),
    ("rules", .map (g.rules.map fun (name, rule) =>
      (Text.quoted name, .atom (rule.debug scope)))),
    ("root", .string g.rootName)]

/-- The recursive rules that the dump asks for. -/
def consulted (scope : Scope) (g : Grammar) : List (RuleId × String) :=
  g.rules.flatMap fun (_, rule) => rule.consulted scope

end Grammar

end Packrat
