import Packrat.Proofs.Building
import Packrat.Proofs.Registration
import Packrat.Workspace

/-!
# The catalog knows its rules

What a parse with a grammar of the catalog relies on: identities belong to one rule
each, keys stand for registered rules, and registered rules have their names.

- `Scope.Knows scope rules`: the names of registered rules, and what the keys inside
  them stand for. `Scope.Knows.recurs`, `Scope.Knows.node_eq`: then every key below them
  stands for one, and nodes are known by their names.
- `Catalog.Sound`: all that the catalog speaks of has been built.
- `Catalog.Sound.add`: a grammar that stands alone is added, soundly, and known.
- `Catalog.exists_arithmetic`, `Catalog.exists_json`: both grammars are in the catalog.
-/

namespace Packrat

/-! ## References -/

namespace Rule

variable {scope : Scope} {rule operand : Rule}

theorem mem_referencesAll {reference : RuleId × String} :
    ∀ {rules : List Rule}, reference ∈ referencesAll rules ↔
      ∃ rule ∈ rules, reference ∈ rule.references
  | [] => by simp [referencesAll]
  | rule :: rest => by simp [referencesAll, mem_referencesAll]

/-- A reference inside a rule is the rule, or is inside an operand. -/
theorem mem_references {reference : RuleId × String} :
    reference ∈ rule.references ↔ rule = .recursive reference.1 reference.2 ∨
      ∃ operand ∈ rule.operands, reference ∈ operand.references := by
  cases rule with
  | char | literal | regex | endOfInput => simp [references, operands]
  | seq _ rules | choice _ rules => simp [references, operands, mem_referencesAll]
  | notAhead _ r | ahead _ r | zeroOrMore _ r | oneOrMore _ r | opt _ r | node _ r =>
    simp [references, operands]
  | recursive id key => simp [references, operands, Prod.ext_iff, eq_comm]

/-- What is referred to inside a rule is a recursive rule below it. -/
theorem reaches_of_mem_references (rule : Rule) {reference : RuleId × String}
    (h : reference ∈ rule.references) :
    rule.Reaches scope (.recursive reference.1 reference.2) := by
  rcases mem_references.1 h with heq | ⟨operand, hmem, h⟩
  · exact heq ▸ .refl
  · have := sizeOf_lt_of_mem_operands hmem
    exact (Reaches.refl.operand hmem).trans (reaches_of_mem_references operand h)
termination_by sizeOf rule

end Rule

/-! ## What a scope knows -/

/-- The scope has the names of the registered rules, and gives the keys inside them
the rules registered as such. -/
structure Scope.Knows (scope : Scope) (rules : List (String × Rule)) : Prop where
  name_eq : ∀ registration ∈ rules, scope.name registration.2.id = some registration.1
  target_eq : ∀ registration ∈ rules, ∀ reference ∈ registration.2.references,
    scope.target reference.1 reference.2 = rules.lookup reference.2

theorem mem_of_lookup {key : String} {rule : Rule} {rules : List (String × Rule)}
    (h : rules.lookup key = some rule) : (key, rule) ∈ rules := by
  obtain ⟨before, after, rfl, -⟩ := List.lookup_eq_some_iff.1 h
  exact List.mem_append_right _ List.mem_cons_self

/-- Where all keys inside registered rules are names of registered rules, every key
below them stands for one. -/
theorem Scope.Knows.recurs {scope : Scope} {rules : List (String × Rule)} (h : scope.Knows rules)
    (hkeys : ∀ registration ∈ rules, ∀ reference ∈ registration.2.references,
      reference.2 ∈ rules.map (·.1)) : scope.Recurs rules := by
  -- what is below is inside a registered rule
  have hinside {rule : Rule} (hbelow : scope.Below rules rule) :
      ∃ other ∈ rules, rule.references ⊆ other.2.references := by
    obtain ⟨registration, hroot, hreaches⟩ := hbelow
    induction hreaches with
    | refl => exact ⟨registration, hroot, List.Subset.refl _⟩
    | operand _ hmem ih =>
      obtain ⟨other, hother, hsub⟩ := ih
      exact ⟨other, hother, fun reference href =>
        hsub (Rule.mem_references.2 (.inr ⟨_, hmem, href⟩))⟩
    | @target id key target _ htarget ih =>
      obtain ⟨other, hother, hsub⟩ := ih
      have hlookup := h.target_eq other hother (id, key) (hsub List.mem_cons_self)
      rw [htarget] at hlookup
      exact ⟨(key, target), mem_of_lookup hlookup.symm, List.Subset.refl _⟩
  intro id key hbelow
  obtain ⟨other, hother, hsub⟩ := hinside hbelow
  have hmem : (id, key) ∈ other.2.references := hsub List.mem_cons_self
  obtain ⟨found, hfound, hname⟩ := List.mem_map.1 (hkeys other hother _ hmem)
  have hsome : (rules.lookup key).isSome = true :=
    List.lookup_isSome_iff.2 ⟨found, hfound, beq_iff_eq.2 hname.symm⟩
  obtain ⟨target, htarget⟩ := Option.isSome_iff_exists.1 hsome
  exact ⟨(key, target), mem_of_lookup htarget, (h.target_eq other hother _ hmem).trans htarget⟩

/-- In a grammar that stands alone, a node with the name of a registered rule is that
rule. -/
theorem Scope.Knows.node_eq {scope : Scope} {draft : Draft} {root operand : Rule} {id : RuleId}
    {rootName name : String} {rule : Rule} (h : scope.Knows draft.rules) (hclosed : draft.Closed)
    (hidentifies : scope.Identifies root) (hroot : (rootName, root) ∈ draft.rules)
    (hrule : (name, rule) ∈ draft.rules) (hbelow : root.Reaches scope rule)
    (hnode : root.Reaches scope (.node id operand))
    (hname : (scope.name id).getD Apply.unnamedNode = name) : .node id operand = rule := by
  have hreached : scope.Below draft.rules (.node id operand) := ⟨_, hroot, hnode⟩
  obtain ⟨registration, hmem, hinside⟩ := hreached.empty (h.recurs hclosed.key_mem)
  obtain ⟨found, hfound, hid⟩ := List.mem_map.1
    (hclosed.node_mem registration hmem id (Rule.mem_nodes_iff_reaches.2 ⟨operand, hinside⟩))
  rw [← hid, h.name_eq found hfound, Option.getD_some] at hname
  have hsame : found = (name, rule) :=
    List.inj_on_of_nodup_map hclosed.names_nodup hfound hrule hname
  exact hidentifies _ _ hnode hbelow (by rw [hsame] at hid; exact hid.symm)

/-! ## What the grammars are built of -/

namespace Builder.Keeps

open Lexical

variable {needs : List Rule} {rule item separator : Rule}

theorem blanks : Keeps needs blanks ([·]) :=
  (of (.oneOf _) (List.nil_subset _)).bind fun _ => of (.zeroOrMore _) (by simp)

theorem lexeme (h : rule ∈ needs) : Keeps needs (lexeme rule) ([·]) :=
  blanks.bind fun _ => of (.seq _) (by simp [h])

theorem symbol (text : String) : Keeps needs (symbol text) ([·]) :=
  (of (.literal _) (List.nil_subset _)).bind fun _ => lexeme List.mem_cons_self

theorem digits : Keeps needs digits ([·]) :=
  (of (.range _ _) (List.nil_subset _)).bind fun _ => of (.oneOrMore _) (by simp)

theorem integer : Keeps needs integer ([·]) :=
  digits.bind fun _ => (of (.ch _) (List.nil_subset _)).bind fun _ =>
    (of (.notAhead _) (by simp)).bind fun _ => of (.seq _) (by simp)

theorem exponent : Keeps needs exponent ([·]) :=
  (of (.oneOf _) (List.nil_subset _)).bind fun _ =>
    (of (.oneOf _) (List.nil_subset _)).bind fun _ => (of (.opt _) (by simp)).bind fun _ =>
    digits.bind fun _ => of (.seq _) (by simp)

theorem float : Keeps needs float ([·]) :=
  digits.bind fun _ => (of (.ch _) (List.nil_subset _)).bind fun _ => digits.bind fun _ =>
    exponent.bind fun _ => (of (.opt _) (by simp)).bind fun _ =>
    (of (.seq _) (by simp)).bind fun _ => exponent.bind fun _ =>
    (of (.choice _) (by simp)).bind fun _ => of (.seq _) (by simp)

theorem word (text : String) : Keeps needs (word text) ([·]) :=
  (of (.literal _) (List.nil_subset _)).bind fun _ =>
    (of (.satisfy _ _) (List.nil_subset _)).bind fun _ => (of (.notAhead _) (by simp)).bind fun _ =>
    of (.seq _) (by simp)

theorem hexDigit : Keeps needs hexDigit ([·]) := of (.satisfy _ _) (List.nil_subset _)

theorem escape : Keeps needs escape ([·]) :=
  (of (.ch _) (List.nil_subset _)).bind fun _ => (of (.oneOf _) (List.nil_subset _)).bind fun _ =>
    (of (.ch _) (List.nil_subset _)).bind fun _ => hexDigit.bind fun _ => hexDigit.bind fun _ =>
    hexDigit.bind fun _ => hexDigit.bind fun _ => (of (.seq _) (by simp)).bind fun _ =>
    (of (.choice _) (by simp)).bind fun _ => of (.seq _) (by simp)

theorem quotedString (quote : Char) : Keeps needs (quotedString quote) ([·]) :=
  (of (.noneOf _) (List.nil_subset _)).bind fun _ => (of (.ch _) (List.nil_subset _)).bind fun _ =>
    escape.bind fun _ => (of (.choice _) (by simp)).bind fun _ =>
    (of (.zeroOrMore _) (by simp)).bind fun _ => (of (.ch _) (List.nil_subset _)).bind fun _ =>
    of (.seq _) (by simp)

theorem list (hitem : item ∈ needs) (hseparator : separator ∈ needs) :
    Keeps needs (list item separator) ([·]) :=
  (of (.seq _) (by simp [hitem, hseparator])).bind fun _ =>
    (of (.zeroOrMore _) (by simp)).bind fun _ => (of (.seq _) (by simp [hitem])).bind fun _ =>
    of (.opt _) (by simp)

theorem operators (table : List String) : Keeps needs (Arithmetic.operators table) ([·]) :=
  (mapM Constructs.literal table).bind fun _ => of (.choice _) (by simp)

/-- The rules of arithmetic expressions are built. -/
theorem arithmetic :
    Keeps needs Arithmetic.rules fun made => made.draft.rules.map (·.2) :=
  float.bind fun _ => integer.bind fun _ => (of (.choice _) (by simp)).bind fun _ =>
    (of (.node _) (by simp)).bind fun _ =>
    (operators _).bind fun _ => (of (.node _) (by simp)).bind fun _ =>
    (operators _).bind fun _ => (of (.node _) (by simp)).bind fun _ =>
    (lexeme (by simp)).bind fun _ => (of (.recursive _) (List.nil_subset _)).bind fun _ =>
    (of (.seq _) (by simp)).bind fun _ => (of (.node _) (by simp)).bind fun _ =>
    (symbol _).bind fun _ => (of (.recursive _) (List.nil_subset _)).bind fun _ =>
    (symbol _).bind fun _ => (of (.seq _) (by simp)).bind fun _ =>
    (lexeme (by simp)).bind fun _ => (of (.choice _) (by simp)).bind fun _ =>
    (lexeme (by simp)).bind fun _ => (of (.seq _) (by simp)).bind fun _ =>
    (of (.zeroOrMore _) (by simp)).bind fun _ => (of (.seq _) (by simp)).bind fun _ =>
    (of (.node _) (by simp)).bind fun _ => blanks.bind fun _ =>
    (of .endOfInput (List.nil_subset _)).bind fun _ => (of (.seq _) (by simp)).bind fun _ =>
    pure (by simp [Arithmetic.Rules.draft])

/-- The rules of JSON values are built. -/
theorem jsonValue : Keeps needs JsonValue.rules fun made => made.draft.rules.map (·.2) :=
  (quotedString _).bind fun _ => (quotedString _).bind fun _ =>
    (of (.choice _) (by simp)).bind fun _ => (of (.node _) (by simp)).bind fun _ =>
    (of (.ch _) (List.nil_subset _)).bind fun _ => (of (.opt _) (by simp)).bind fun _ =>
    float.bind fun _ => (of (.seq _) (by simp)).bind fun _ => (of (.node _) (by simp)).bind fun _ =>
    (of (.ch _) (List.nil_subset _)).bind fun _ => (of (.opt _) (by simp)).bind fun _ =>
    integer.bind fun _ => (of (.seq _) (by simp)).bind fun _ =>
    (of (.node _) (by simp)).bind fun _ =>
    (word _).bind fun _ => (of (.node _) (by simp)).bind fun _ =>
    (word _).bind fun _ => (of (.node _) (by simp)).bind fun _ =>
    (word _).bind fun _ => (of (.node _) (by simp)).bind fun _ =>
    (lexeme (by simp)).bind fun _ => (symbol _).bind fun _ =>
    (of (.recursive _) (List.nil_subset _)).bind fun _ => (of (.seq _) (by simp)).bind fun _ =>
    (of (.node _) (by simp)).bind fun _ =>
    (symbol _).bind fun _ => (lexeme (by simp)).bind fun _ => (symbol _).bind fun _ =>
    (list (by simp) (by simp)).bind fun _ => (of (.literal _) (List.nil_subset _)).bind fun _ =>
    (of (.seq _) (by simp)).bind fun _ => (of (.node _) (by simp)).bind fun _ =>
    (symbol _).bind fun _ => (of (.recursive _) (List.nil_subset _)).bind fun _ =>
    (lexeme (by simp)).bind fun _ => (symbol _).bind fun _ =>
    (list (by simp) (by simp)).bind fun _ => (of (.literal _) (List.nil_subset _)).bind fun _ =>
    (of (.seq _) (by simp)).bind fun _ => (of (.node _) (by simp)).bind fun _ =>
    (of (.choice _) (by simp)).bind fun _ => blanks.bind fun _ => blanks.bind fun _ =>
    (of .endOfInput (List.nil_subset _)).bind fun _ => (of (.seq _) (by simp)).bind fun _ =>
    pure (by simp [JsonValue.Rules.draft])

end Builder.Keeps

/-! ## Targets -/

namespace Targets

variable {targets : Targets} {added : List (RuleId × Rule)} {id : RuleId} {target : Rule}

/-- A target is from before, or has been added. -/
theorem of_getElem?_insertMany (h : (targets.insertMany added)[id]? = some target) :
    targets[id]? = some target ∨ (id, target) ∈ added := by
  induction added generalizing targets with
  | nil => exact .inl (by rwa [Std.HashMap.insertMany_nil] at h)
  | cons first rest ih =>
    rw [Std.HashMap.insertMany_cons] at h
    rcases ih h with hfirst | hrest
    · rw [Std.HashMap.getElem?_insert] at hfirst
      split at hfirst
      · rename_i hsame
        cases hfirst
        exact .inr (eq_of_beq hsame ▸ List.mem_cons_self)
      · exact .inl hfirst
    · exact .inr (List.mem_cons_of_mem _ hrest)

/-- The only target that is added for an identity is its target. -/
theorem getElem?_insertMany (hmem : (id, target) ∈ added)
    (honly : ∀ other, (id, other) ∈ added → other = target) :
    (targets.insertMany added)[id]? = some target := by
  induction added generalizing targets with
  | nil => cases hmem
  | cons first rest ih =>
    rw [Std.HashMap.insertMany_cons]
    by_cases hrest : ∃ other, (id, other) ∈ rest
    · obtain ⟨other, hother⟩ := hrest
      cases honly other (List.mem_cons_of_mem _ hother)
      exact ih hother fun other h => honly other (List.mem_cons_of_mem _ h)
    · -- the entry is the first one, and nothing comes after it
      have hfirst : (id, target) = first := by
        rcases List.mem_cons.1 hmem with heq | htail
        · exact heq
        · exact absurd ⟨target, htail⟩ hrest
      have hkept : (rest.map Prod.fst).contains id = false := by
        refine Bool.eq_false_iff.2 fun hcontains => ?_
        obtain ⟨⟨_, other⟩, hother, rfl⟩ := List.mem_map.1 (List.contains_iff_mem.1 hcontains)
        exact hrest ⟨other, hother⟩
      rw [Std.HashMap.getElem?_insertMany_list_of_contains_eq_false hkept, ← hfirst,
        Std.HashMap.getElem?_insert, if_pos (beq_self_eq_true _)]

end Targets

/-- The targets of a grammar are those of the keys inside its rules. -/
theorem Grammar.mem_targets {g : Grammar} {id : RuleId} {target : Rule} :
    (id, target) ∈ g.targets ↔
      ∃ registration ∈ g.rules, ∃ key, (id, key) ∈ registration.2.references ∧
        g.rules.lookup key = some target := by
  simp only [targets, rule?, List.mem_filterMap, List.mem_flatMap, Option.map_eq_some_iff,
    Prod.mk.injEq, Prod.exists]
  grind

/-! ## The catalog -/

/-- The registered rules, and the recursive rules inside them, have identities from
`start` on. -/
structure Draft.StartsAt (draft : Draft) (start : RuleId) : Prop where
  le_id : ∀ registration ∈ draft.rules, start ≤ registration.2.id
  le_reference : ∀ registration ∈ draft.rules, ∀ reference ∈ registration.2.references,
    start ≤ reference.1

namespace Catalog

variable {α : Type} {catalog : Catalog} {rules : List Rule}

/-- What is known of the rules of the catalog. -/
abbrev scope (catalog : Catalog) : Scope := (Workspace.ofCatalog catalog).scope

theorem scope_target (catalog : Catalog) (id : RuleId) (key : String) :
    catalog.scope.target id key = catalog.targets[id]? := by
  show (catalog.targets[id]?).or (∅ : Std.HashMap String Rule)[key]? = _
  rw [Std.HashMap.getElem?_empty, Option.or_none]

/-- All that the catalog speaks of has been built: `rules` are the rules that were. -/
structure Sound (catalog : Catalog) (rules : List Rule) : Prop where
  built : Builder.Built rules catalog.supply
  name_mem : ∀ (id : RuleId) (name : String), catalog.names[id]? = some name → id ∈ rules.map Rule.id
  target_mem : ∀ (id : RuleId) (target : Rule), catalog.targets[id]? = some target → target ∈ rules

namespace Sound

theorem empty : Catalog.empty.Sound [] where
  built := .start 0
  name_mem := fun id name h => by
    have hnone : Catalog.empty.names[id]? = none := Std.HashMap.getElem?_empty
    rw [hnone] at h
    cases h
  target_mem := fun id target h => by
    have hnone : Catalog.empty.targets[id]? = none := Std.HashMap.getElem?_empty
    rw [hnone] at h
    cases h

/-- Identities of rules in the catalog are theirs alone. -/
theorem identifies {rule : Rule} (h : catalog.Sound rules) (hrule : rule ∈ rules) :
    catalog.scope.Identifies rule :=
  h.built.identifies hrule fun id key target htarget =>
    h.target_mem id target (catalog.scope_target id key ▸ htarget)

/-- An identity refers by one key. -/
theorem reference_unique {rule rule' : Rule} {id : RuleId} {key key' : String}
    (h : catalog.Sound rules) (hrule : rule ∈ rules) (hrule' : rule' ∈ rules)
    (hkey : (id, key) ∈ rule.references) (hkey' : (id, key') ∈ rule'.references) :
    key = key' := by
  have hcloses : Scope.empty.Closes rules := ⟨h.built.operand_mem, fun _ _ _ _ => nofun⟩
  have hmem := hcloses.mem_of_reaches hrule (Rule.reaches_of_mem_references rule hkey)
  have hmem' := hcloses.mem_of_reaches hrule' (Rule.reaches_of_mem_references rule' hkey')
  have hsame := List.inj_on_of_nodup_map h.built.nodup hmem hmem' rfl
  cases hsame
  rfl

variable {build : Builder α} {draft : α → Draft} {made : α} {next : RuleId}
  {rootName : String} {root : Rule}

/-- A grammar that stands alone is registered when it is added: its rules get their
names, and no others do. -/
theorem exists_add_eq (h : catalog.Sound rules) (aliases : List String)
    (hbuild : build catalog.supply = .ok (made, next)) (hclosed : (draft made).Closed)
    (hnew : (draft made).StartsAt catalog.supply)
    (hroot : Draft.chooseRoot (draft made).rules (draft made).root = .ok (rootName, root)) :
    ∃ g names', g = ⟨(draft made).name, (draft made).rules, rootName, root⟩ ∧
      catalog.add aliases build draft =
        ⟨catalog.entries ++ [(aliases, g)], names', catalog.targets.insertMany g.targets, next⟩ ∧
      (∀ registration ∈ (draft made).rules, names'[registration.2.id]? = some registration.1) ∧
      ∀ id ∉ (draft made).rules.map (·.2.id), names'[id]? = catalog.names[id]? := by
  have hunnamed : ∀ registration ∈ (draft made).rules,
      catalog.names[registration.2.id]? = none := by
    intro registration hmem
    refine Option.eq_none_iff_forall_ne_some.2 fun name hname => ?_
    obtain ⟨rule, hrule, hid⟩ := List.mem_map.1 (h.name_mem _ name hname)
    have hlt : rule.id < catalog.supply := h.built.id_lt rule hrule
    rw [hid] at hlt
    exact Nat.lt_irrefl _ (Nat.lt_of_lt_of_le hlt (hnew.le_id registration hmem))
  obtain ⟨names', hregister, hnamed, hkept⟩ := hclosed.build_eq hunnamed hroot
  refine ⟨_, names', rfl, ?_, hnamed, hkept⟩
  unfold Catalog.add
  rw [hbuild]
  dsimp only
  rw [hregister]

/-- **A grammar that stands alone is added**: soundly, at the end, and the catalog knows
its rules. -/
theorem add (h : catalog.Sound rules) (aliases : List String)
    (hkeeps : Builder.Keeps [] build fun made => (draft made).rules.map (·.2))
    (hbuild : build catalog.supply = .ok (made, next)) (hclosed : (draft made).Closed)
    (hnew : (draft made).StartsAt catalog.supply)
    (hroot : Draft.chooseRoot (draft made).rules (draft made).root = .ok (rootName, root)) :
    ∃ rules', (catalog.add aliases build draft).Sound rules' ∧ rules ⊆ rules' ∧
      (∀ registration ∈ (draft made).rules, registration.2 ∈ rules') ∧
      (catalog.add aliases build draft).scope.Knows (draft made).rules ∧
      (catalog.add aliases build draft).entries = catalog.entries ++
        [(aliases, ⟨(draft made).name, (draft made).rules, rootName, root⟩)] ∧
      (catalog.add aliases build draft).supply = next := by
  obtain ⟨g, names', hg, hadd, hnamed, hkept⟩ := h.exists_add_eq aliases hbuild hclosed hnew hroot
  obtain ⟨rules', hsub, hbuilt, hparts⟩ :=
    hkeeps rules catalog.supply next made h.built (List.nil_subset _) hbuild
  have hregistered : ∀ registration ∈ (draft made).rules, registration.2 ∈ rules' :=
    fun registration hmem => hparts (List.mem_map_of_mem hmem)
  have hrules : g.rules = (draft made).rules := by rw [hg]
  rw [← hg, hadd]
  have hsound : Sound ⟨catalog.entries ++ [(aliases, g)], names',
      catalog.targets.insertMany g.targets, next⟩ rules' := {
    built := hbuilt
    name_mem := fun id name hname => by
      by_cases hmem : id ∈ (draft made).rules.map (·.2.id)
      · obtain ⟨registration, hregistration, rfl⟩ := List.mem_map.1 hmem
        exact List.mem_map_of_mem (hregistered registration hregistration)
      · rw [hkept id hmem] at hname
        exact List.map_subset _ hsub (h.name_mem id name hname)
    target_mem := fun id target htarget => by
      rcases Targets.of_getElem?_insertMany htarget with hbefore | hadded
      · exact hsub (h.target_mem id target hbefore)
      · obtain ⟨registration, -, key, -, hlookup⟩ := Grammar.mem_targets.1 hadded
        exact hregistered _ (mem_of_lookup (hrules ▸ hlookup)) }
  refine ⟨rules', hsound, hsub, hregistered, ⟨hnamed, ?_⟩, rfl, rfl⟩
  intro registration hmem reference href
  obtain ⟨id, key⟩ := reference
  obtain ⟨found, hfound, hkey⟩ := List.mem_map.1 (hclosed.key_mem registration hmem _ href)
  have hsome : ((draft made).rules.lookup key).isSome = true :=
    List.lookup_isSome_iff.2 ⟨found, hfound, beq_iff_eq.2 hkey.symm⟩
  obtain ⟨target, hlookup⟩ := Option.isSome_iff_exists.1 hsome
  rw [scope_target, hlookup]
  refine Targets.getElem?_insertMany (Grammar.mem_targets.2
    ⟨registration, hrules ▸ hmem, key, href, hrules ▸ hlookup⟩) fun other hother => ?_
  -- another target would belong to another key, but the identity refers by one only
  obtain ⟨registration', hmem', key', href', hlookup'⟩ := Grammar.mem_targets.1 hother
  rw [hrules] at hmem' hlookup'
  have hsame : key = key' := hsound.reference_unique (hregistered registration hmem)
    (hregistered registration' hmem') href href'
  rw [← hsame, hlookup] at hlookup'
  exact (Option.some.inj hlookup').symm

/-- What the catalog knows, it still knows when a grammar is added. -/
theorem knows_add {known : List (String × Rule)} (h : catalog.Sound rules) (aliases : List String)
    (hbuild : build catalog.supply = .ok (made, next)) (hclosed : (draft made).Closed)
    (hnew : (draft made).StartsAt catalog.supply)
    (hroot : Draft.chooseRoot (draft made).rules (draft made).root = .ok (rootName, root))
    (hknown : ∀ registration ∈ known, registration.2 ∈ rules)
    (hknows : catalog.scope.Knows known) :
    (catalog.add aliases build draft).scope.Knows known := by
  obtain ⟨g, names', hg, hadd, -, hkept⟩ := h.exists_add_eq aliases hbuild hclosed hnew hroot
  rw [hadd]
  constructor
  case name_eq =>
    intro registration hmem
    have hlt : registration.2.id < catalog.supply := h.built.id_lt _ (hknown registration hmem)
    have hother : registration.2.id ∉ (draft made).rules.map (·.2.id) := fun hmem' => by
      obtain ⟨added, hadded, hid⟩ := List.mem_map.1 hmem'
      exact Nat.lt_irrefl _ (Nat.lt_of_lt_of_le hlt (hid ▸ hnew.le_id added hadded))
    exact (hkept _ hother).trans (hknows.name_eq registration hmem)
  case target_eq =>
    intro registration hmem reference href
    have hcloses : Scope.empty.Closes rules := ⟨h.built.operand_mem, fun _ _ _ _ => nofun⟩
    have hlt : reference.1 < catalog.supply := h.built.id_lt _ (hcloses.mem_of_reaches
      (hknown registration hmem) (Rule.reaches_of_mem_references _ href))
    have hother : (g.targets.map Prod.fst).contains reference.1 = false := by
      refine Bool.eq_false_iff.2 fun hcontains => ?_
      obtain ⟨⟨id, target⟩, hadded, hid⟩ := List.mem_map.1 (List.contains_iff_mem.1 hcontains)
      obtain ⟨added, hadded, key, hkey, -⟩ := Grammar.mem_targets.1 hadded
      have hle : catalog.supply ≤ id := hnew.le_reference added (by rwa [hg] at hadded) _ hkey
      exact Nat.lt_irrefl _ (Nat.lt_of_lt_of_le hlt (hid ▸ hle))
    rw [scope_target, Std.HashMap.getElem?_insertMany_list_of_contains_eq_false hother,
      ← scope_target catalog reference.1 reference.2]
    exact hknows.target_eq registration hmem reference href

end Sound

end Catalog

/-! ## The grammars that come with the library -/

/-- The grammar of arithmetic expressions stands alone, whatever the supply is. -/
theorem Arithmetic.exists_rules (start : RuleId) :
    ∃ made next, rules start = .ok (made, next) ∧ made.draft.Closed ∧
      made.draft.StartsAt start := by
  refine ⟨_, _, rfl, ?_, ?_⟩
  · constructor
    case name_ne => rfl
    case names_ne => simp [Rules.draft, String.isEmpty]
    case names_nodup => simp [Rules.draft]
    case ids_nodup => simp [Rules.draft, Rule.id, Nat.add_assoc]
    case node_mem => simp [Rules.draft, Rule.id, Rule.nodes, Rule.nodesAll, Nat.add_assoc]
    case key_mem => simp [Rules.draft, Rule.references, Rule.referencesAll, or_imp, forall_and]
  · constructor
    case le_id => simp [Rules.draft, Rule.id, Nat.add_assoc]
    case le_reference =>
      simp [Rules.draft, Rule.references, Rule.referencesAll, Nat.add_assoc, or_imp, forall_and]

/-- The grammar of JSON values stands alone, whatever the supply is. -/
theorem JsonValue.exists_rules (start : RuleId) :
    ∃ made next, rules start = .ok (made, next) ∧ made.draft.Closed ∧
      made.draft.StartsAt start := by
  refine ⟨_, _, rfl, ?_, ?_⟩
  · constructor
    case name_ne => rfl
    case names_ne => simp [Rules.draft, String.isEmpty]
    case names_nodup => simp [Rules.draft]
    case ids_nodup => simp [Rules.draft, Rule.id, Nat.add_assoc]
    case node_mem => simp [Rules.draft, Rule.id, Rule.nodes, Rule.nodesAll, Nat.add_assoc]
    case key_mem => simp [Rules.draft, Rule.references, Rule.referencesAll, or_imp, forall_and]
  · constructor
    case le_id => simp [Rules.draft, Rule.id, Nat.add_assoc]
    case le_reference =>
      simp [Rules.draft, Rule.references, Rule.referencesAll, Nat.add_assoc, or_imp, forall_and]

namespace Catalog

/-- Both grammars are in the catalog, which knows their rules; `rules` are all that were
built. -/
theorem exists_standard :
    ∃ (arithmetic : Arithmetic.Rules) (json : JsonValue.Rules) (rules : List Rule),
      Arithmetic.rules.Makes arithmetic ∧ JsonValue.rules.Makes json ∧
      arithmetic.draft.Closed ∧ json.draft.Closed ∧ standard.Sound rules ∧
      (∀ registration ∈ arithmetic.draft.rules ++ json.draft.rules, registration.2 ∈ rules) ∧
      standard.scope.Knows arithmetic.draft.rules ∧ standard.scope.Knows json.draft.rules ∧
      standard.entries =
        [(["arithmetic", "arith", "expr", "expression"],
            ⟨"arithmetic", arithmetic.draft.rules, "Arithmetic", arithmetic.arithmetic⟩),
          (["json"], ⟨"json", json.draft.rules, "Json", json.json⟩)] := by
  obtain ⟨arithmetic, supply, hmade, hclosed, hnew⟩ := Arithmetic.exists_rules empty.supply
  obtain ⟨rules, hsound, -, hregistered, hknows, hentries, hsupply⟩ :=
    Sound.empty.add ["arithmetic", "arith", "expr", "expression"] .arithmetic hmade hclosed hnew rfl
  obtain ⟨json, next, hmade', hclosed', hnew'⟩ := JsonValue.exists_rules supply
  rw [← hsupply] at hmade' hnew'
  obtain ⟨rules', hsound', hsub, hregistered', hknows', hentries', -⟩ :=
    hsound.add ["json"] .jsonValue hmade' hclosed' hnew' rfl
  refine ⟨arithmetic, json, rules', ⟨_, _, hmade⟩, ⟨_, _, hmade'⟩, hclosed, hclosed', hsound', ?_,
    hsound.knows_add ["json"] hmade' hclosed' hnew' rfl hregistered hknows, hknows', ?_⟩
  · exact List.forall_mem_append.2
      ⟨fun registration hmem => hsub (hregistered registration hmem), hregistered'⟩
  · unfold standard
    rw [hentries', hentries]
    rfl

/-- **The grammar of arithmetic expressions is in the catalog**, which knows its rules:
the keys below its root stand for rules, and identities there are unique. -/
theorem exists_arithmetic :
    ∃ made g, Arithmetic.rules.Makes made ∧ standard.find? "arithmetic" = some g ∧
      g.root = made.arithmetic ∧ made.draft.Closed ∧ standard.scope.Knows made.draft.rules ∧
      standard.scope.Resolves made.arithmetic ∧ standard.scope.Identifies made.arithmetic := by
  obtain ⟨made, json, rules, hmakes, -, hclosed, -, hsound, hregistered, hknows, -, hentries⟩ :=
    exists_standard
  have hroot : ("Arithmetic", made.arithmetic) ∈ made.draft.rules := List.mem_cons_self
  refine ⟨made, ⟨"arithmetic", made.draft.rules, "Arithmetic", made.arithmetic⟩, hmakes, ?_, rfl,
    hclosed, hknows, (hknows.recurs hclosed.key_mem).resolves hroot,
    hsound.identifies (hregistered _ (List.mem_append_left _ hroot))⟩
  have hlower : String.ofList ("arithmetic".toList.map Char.toLower) = "arithmetic" := rfl
  unfold find?
  rw [hlower, hentries]
  rfl

/-- **The grammar of JSON values is in the catalog**, which knows its rules: the keys
below its root stand for rules, and identities there are unique. -/
theorem exists_json :
    ∃ made g, JsonValue.rules.Makes made ∧ standard.find? "json" = some g ∧ g.root = made.json ∧
      standard.scope.Knows made.draft.rules ∧ standard.scope.Resolves made.json ∧
      standard.scope.Identifies made.json := by
  obtain ⟨arithmetic, made, rules, -, hmakes, -, hclosed, hsound, hregistered, -, hknows,
    hentries⟩ := exists_standard
  have hroot : ("Json", made.json) ∈ made.draft.rules := List.mem_cons_self
  refine ⟨made, ⟨"json", made.draft.rules, "Json", made.json⟩, hmakes, ?_, rfl, hknows,
    (hknows.recurs hclosed.key_mem).resolves hroot,
    hsound.identifies (hregistered _ (List.mem_append_right _ hroot))⟩
  have hlower : String.ofList ("json".toList.map Char.toLower) = "json" := rfl
  unfold find?
  rw [hlower, hentries]
  rfl

end Catalog

end Packrat
