import Packrat.Grammar.Catalog
import Packrat.Proofs.Graph

/-!
# Registering rules

What the checks of a draft come to, and what becomes of a draft that passes them.

- `Draft.checkNames_eq_ok_iff`, `Draft.checkIdentities_eq_ok_iff`: the checks of names
  and identities, as statements about all registrations.
- `Draft.checkNodes_spec`: the search for nodes without a name misses none, although it
  enters no rule twice.
- `Draft.Admissible`: what all checks ask. `Draft.Admissible.build_eq`: an admissible
  draft becomes a grammar, its rules get their names, and no other rule gets one.
- `Draft.build_exact`: no other draft becomes a grammar, and one that does not leaves
  all names as they were.
- `Draft.Closed`: a draft that stands alone, which is admissible where its rules have no
  names yet.
-/

namespace Packrat

namespace Rule

mutual

/-- The identities of the nodes inside a rule. -/
def nodes : Rule → List RuleId
  | .node id r => id :: nodes r
  | .seq _ rules | .choice _ rules => nodesAll rules
  | .notAhead _ r | .ahead _ r | .zeroOrMore _ r | .oneOrMore _ r | .opt _ r => nodes r
  | .char .. | .literal .. | .regex .. | .endOfInput _ | .recursive .. => []

/-- The identities of the nodes inside several rules. -/
def nodesAll : List Rule → List RuleId
  | [] => []
  | r :: rest => nodes r ++ nodesAll rest

end

variable {scope : Scope} {rule below : Rule} {id : RuleId} {settled : RuleId → Bool}

theorem mem_nodesAll : ∀ {rules : List Rule}, id ∈ nodesAll rules ↔ ∃ rule ∈ rules, id ∈ rule.nodes
  | [] => by simp [nodesAll]
  | rule :: rest => by simp [nodesAll, mem_nodesAll]

/-- A node inside a rule is the rule, or is inside an operand. -/
theorem mem_nodes :
    id ∈ rule.nodes ↔ (∃ operand, rule = .node id operand) ∨ ∃ operand ∈ rule.operands,
      id ∈ operand.nodes := by
  cases rule with
  | char | literal | regex | endOfInput | recursive => simp [nodes, operands]
  | seq _ rules | choice _ rules => simp [nodes, operands, mem_nodesAll]
  | notAhead _ r | ahead _ r | zeroOrMore _ r | oneOrMore _ r | opt _ r => simp [nodes, operands]
  | node _ r => simp [nodes, operands, eq_comm]

theorem exists_reaches_of_mem_nodes (rule : Rule) (h : id ∈ rule.nodes) :
    ∃ operand, rule.Reaches scope (.node id operand) := by
  rcases mem_nodes.1 h with ⟨operand, rfl⟩ | ⟨operand, hmem, h⟩
  · exact ⟨operand, .refl⟩
  · have := sizeOf_lt_of_mem_operands hmem
    obtain ⟨inner, hinner⟩ := exists_reaches_of_mem_nodes operand h
    exact ⟨inner, (Reaches.refl.operand hmem).trans hinner⟩
termination_by sizeOf rule

/-- Through operands, nothing else is reached than what is inside. -/
theorem Reaches.nodes_subset (h : rule.Reaches .empty below) : below.nodes ⊆ rule.nodes := by
  induction h with
  | refl => exact List.Subset.refl _
  | operand _ hmem ih => exact fun id hid => ih (mem_nodes.2 (.inr ⟨_, hmem, hid⟩))
  | target _ htarget => cases htarget

theorem mem_nodes_iff_reaches :
    id ∈ rule.nodes ↔ ∃ operand, rule.Reaches .empty (.node id operand) := by
  constructor
  · exact exists_reaches_of_mem_nodes rule
  · rintro ⟨operand, hreaches⟩
    exact hreaches.nodes_subset List.mem_cons_self

/-! ## The search for nodes without a name -/

mutual

/-- Where all nodes are settled, the search for one that is not comes to nothing. -/
theorem exists_clearOf? : ∀ (rule : Rule) (clear : Std.HashSet RuleId),
    (∀ id ∈ rule.nodes, settled id = true) → ∃ clear', rule.clearOf? settled clear = some clear'
  | .node id r, clear, h => by
    obtain ⟨hid, hr⟩ := List.forall_mem_cons.1 h
    obtain ⟨clear', hclear⟩ := exists_clearOf? r clear hr
    rw [clearOf?, hclear, if_pos hid]
    split <;> exact ⟨_, rfl⟩
  | .seq id rules, clear, h | .choice id rules, clear, h => by
    obtain ⟨clear', hclear⟩ := exists_clearOfAll? rules clear h
    rw [clearOf?, hclear]
    split <;> exact ⟨_, rfl⟩
  | .notAhead id r, clear, h | .ahead id r, clear, h | .zeroOrMore id r, clear, h
  | .oneOrMore id r, clear, h | .opt id r, clear, h => by
    obtain ⟨clear', hclear⟩ := exists_clearOf? r clear h
    rw [clearOf?, hclear]
    split <;> exact ⟨_, rfl⟩
  | .char .., clear, _ | .literal .., clear, _ | .regex .., clear, _ | .endOfInput _, clear, _
  | .recursive .., clear, _ => ⟨clear, rfl⟩

theorem exists_clearOfAll? : ∀ (rules : List Rule) (clear : Std.HashSet RuleId),
    (∀ id ∈ nodesAll rules, settled id = true) →
      ∃ clear', clearOfAll? settled rules clear = some clear'
  | [], clear, _ => ⟨clear, rfl⟩
  | r :: rest, clear, h => by
    obtain ⟨hr, hrest⟩ := List.forall_mem_append.1 h
    obtain ⟨clear', hclear⟩ := exists_clearOf? r clear hr
    rw [clearOfAll?, hclear]
    exact exists_clearOfAll? rest clear' hrest

end

variable {registered : List (String × Rule)}

/-- What is below the registered rules and has an identity in `clear` contains settled
nodes only. -/
def Clears (registered : List (String × Rule)) (settled : RuleId → Bool)
    (clear : Std.HashSet RuleId) : Prop :=
  ∀ rule, Scope.empty.Below registered rule → clear.contains rule.id = true →
    ∀ id ∈ rule.nodes, settled id = true

theorem Clears.empty : Clears registered settled ∅ := by
  intro rule _ hmem
  rw [Std.HashSet.contains_empty] at hmem
  cases hmem

theorem Clears.insert {clear : Std.HashSet RuleId} (h : Clears registered settled clear)
    (hseparates : Scope.empty.Separates registered) (hrule : Scope.empty.Below registered rule)
    (hnodes : ∀ id ∈ rule.nodes, settled id = true) :
    Clears registered settled (clear.insert rule.id) := by
  intro other hother hmem
  rw [Std.HashSet.contains_insert, Bool.or_eq_true] at hmem
  rcases hmem with hsame | hbefore
  · -- the identity that was inserted belongs to this rule only
    rw [hseparates other rule hother hrule (eq_of_beq hsame).symm]
    exact hnodes
  · exact h other hother hbefore

/-- A rule in `clear` is not entered again, and one that is entered is put there when
all inside it was searched. -/
theorem Clears.enter {clear clear' : Std.HashSet RuleId} {search : Option (Std.HashSet RuleId)}
    (h : Clears registered settled clear) (hseparates : Scope.empty.Separates registered)
    (hrule : Scope.empty.Below registered rule)
    (hsearch : (if clear.contains rule.id then some clear
      else search.map (·.insert rule.id)) = some clear')
    (hinside : ∀ inner, search = some inner →
      (∀ id ∈ rule.nodes, settled id = true) ∧ Clears registered settled inner) :
    (∀ id ∈ rule.nodes, settled id = true) ∧ Clears registered settled clear' := by
  split at hsearch
  · rename_i hmem
    cases hsearch
    exact ⟨h rule hrule hmem, h⟩
  · obtain ⟨inner, hinner, rfl⟩ := Option.map_eq_some_iff.1 hsearch
    obtain ⟨hnodes, hclears⟩ := hinside inner hinner
    exact ⟨hnodes, hclears.insert hseparates hrule hnodes⟩

mutual

/-- Where the search finds no node without a name, there is none, and it remembers only
rules in which there is none. -/
theorem settled_of_clearOf? (hseparates : Scope.empty.Separates registered) :
    ∀ (rule : Rule) (clear clear' : Std.HashSet RuleId), Scope.empty.Below registered rule →
      Clears registered settled clear → rule.clearOf? settled clear = some clear' →
      (∀ id ∈ rule.nodes, settled id = true) ∧ Clears registered settled clear'
  | .node id r, clear, clear', hrule, hclear, h => by
    have hr := hrule.operand (List.mem_singleton_self r)
    rw [clearOf?] at h
    by_cases hid : settled id = true
    · rw [if_pos hid] at h
      refine hclear.enter hseparates hrule h fun inner hinner => ?_
      obtain ⟨hnodes, hclears⟩ := settled_of_clearOf? hseparates r clear inner hr hclear hinner
      exact ⟨List.forall_mem_cons.2 ⟨hid, hnodes⟩, hclears⟩
    · rw [if_neg hid] at h
      obtain ⟨hmem, hsame⟩ := Option.ite_none_right_eq_some.1 h
      cases hsame
      exact ⟨hclear (.node id r) hrule hmem, hclear⟩
  | .seq id rules, clear, clear', hrule, hclear, h
  | .choice id rules, clear, clear', hrule, hclear, h => by
    rw [clearOf?] at h
    exact hclear.enter hseparates hrule h fun inner hinner =>
      settled_of_clearOfAll? hseparates rules clear inner (fun r hr => hrule.operand hr) hclear hinner
  | .notAhead id r, clear, clear', hrule, hclear, h
  | .ahead id r, clear, clear', hrule, hclear, h
  | .zeroOrMore id r, clear, clear', hrule, hclear, h
  | .oneOrMore id r, clear, clear', hrule, hclear, h
  | .opt id r, clear, clear', hrule, hclear, h => by
    have hr := hrule.operand (List.mem_singleton_self r)
    rw [clearOf?] at h
    exact hclear.enter hseparates hrule h fun inner hinner =>
      settled_of_clearOf? hseparates r clear inner hr hclear hinner
  | .char .., clear, clear', _, hclear, h | .literal .., clear, clear', _, hclear, h
  | .regex .., clear, clear', _, hclear, h | .endOfInput _, clear, clear', _, hclear, h
  | .recursive .., clear, clear', _, hclear, h => by
    cases h
    exact ⟨List.forall_mem_nil _, hclear⟩

theorem settled_of_clearOfAll? (hseparates : Scope.empty.Separates registered) :
    ∀ (rules : List Rule) (clear clear' : Std.HashSet RuleId),
      (∀ rule ∈ rules, Scope.empty.Below registered rule) → Clears registered settled clear →
      clearOfAll? settled rules clear = some clear' →
      (∀ id ∈ nodesAll rules, settled id = true) ∧ Clears registered settled clear'
  | [], clear, clear', _, hclear, h => by
    cases h
    exact ⟨List.forall_mem_nil _, hclear⟩
  | r :: rest, clear, clear', hrules, hclear, h => by
    obtain ⟨hrule, hrest⟩ := List.forall_mem_cons.1 hrules
    obtain ⟨mid, hmid, hafter⟩ := Option.bind_eq_some_iff.1 h
    obtain ⟨hnodes, hmid⟩ := settled_of_clearOf? hseparates r clear mid hrule hclear hmid
    obtain ⟨hothers, hclear'⟩ :=
      settled_of_clearOfAll? hseparates rest mid clear' hrest hmid hafter
    exact ⟨List.forall_mem_append.2 ⟨hnodes, hothers⟩, hclear'⟩

end

end Rule

namespace Draft

variable {names : Names} {earlier rules : List (String × Rule)} {known : List String}

/-! ## Checks -/

theorem checkNames_cons_iff {registration : String × Rule} :
    checkNames names known (registration :: rules) = .ok () ↔
      registration.1.isEmpty = false ∧
      (∀ bound, names[registration.2.id]? = some bound → bound = registration.1) ∧
      registration.1 ∉ known ∧ checkNames names (registration.1 :: known) rules = .ok () := by
  obtain ⟨name, rule⟩ := registration
  have hnew : checkNames.checkNew names known name rules = .ok () ↔
      name ∉ known ∧ checkNames names (name :: known) rules = .ok () := by
    unfold checkNames.checkNew
    split <;> simp_all
  rw [checkNames]
  split
  · simp_all
  · rename_i hname
    rw [Bool.not_eq_true] at hname
    split
    · rename_i bound hbound
      split
      · simp_all
      · simp_all
    · simp_all

/-- The check of names: each is there, is the one that its rule may have already, and
is new. -/
theorem checkNames_eq_ok_iff :
    checkNames names known rules = .ok () ↔
      (∀ registration ∈ rules, registration.1.isEmpty = false ∧
        (∀ bound, names[registration.2.id]? = some bound → bound = registration.1) ∧
        registration.1 ∉ known) ∧
      (rules.map (·.1)).Nodup := by
  induction rules generalizing known with
  | nil => simp [checkNames]
  | cons registration rest ih =>
    rw [checkNames_cons_iff, ih, List.map_cons, List.nodup_cons, List.forall_mem_cons]
    simp only [List.mem_cons, not_or, List.mem_map, not_exists, not_and]
    grind

theorem checkIdentities_cons_iff {registration : String × Rule} :
    checkIdentities earlier (registration :: rules) = .ok () ↔
      registration.2.id ∉ earlier.map (·.2.id) ∧
      checkIdentities (earlier ++ [registration]) rules = .ok () := by
  obtain ⟨name, rule⟩ := registration
  rw [checkIdentities]
  split
  · rename_i first other hfound
    have hmem := List.mem_of_find?_eq_some hfound
    have hsame := List.find?_some hfound
    simp only [reduceCtorEq, false_iff, not_and]
    exact fun hnot => absurd (List.mem_map.2 ⟨_, hmem, eq_of_beq hsame⟩) hnot
  · rename_i hnone
    rw [List.find?_eq_none] at hnone
    refine (and_iff_right fun hmem => ?_).symm
    obtain ⟨other, hother, hsame⟩ := List.mem_map.1 hmem
    exact hnone other hother (beq_iff_eq.2 hsame)

/-- The check of identities: no two registrations are of one rule. -/
theorem checkIdentities_eq_ok_iff :
    checkIdentities earlier rules = .ok () ↔
      (∀ registration ∈ rules, registration.2.id ∉ earlier.map (·.2.id)) ∧
      (rules.map (·.2.id)).Nodup := by
  induction rules generalizing earlier with
  | nil => simp [checkIdentities]
  | cons registration rest ih =>
    rw [checkIdentities_cons_iff, ih, List.map_cons, List.nodup_cons, List.forall_mem_cons]
    simp only [List.map_append, List.map_cons, List.map_nil, List.mem_append, List.mem_singleton,
      not_or, List.mem_map, not_exists, not_and]
    grind

/-- The check of nodes finds nothing where all nodes are settled. -/
theorem checkNodes_eq_ok {settled : RuleId → Bool} :
    ∀ {rules : List (String × Rule)} (clear : Std.HashSet RuleId),
      (∀ registration ∈ rules, ∀ id ∈ registration.2.nodes, settled id = true) →
      checkNodes settled clear rules = .ok ()
  | [], _, _ => rfl
  | (name, rule) :: rest, clear, h => by
    obtain ⟨hrule, hrest⟩ := List.forall_mem_cons.1 h
    obtain ⟨clear', hclear⟩ := rule.exists_clearOf? clear hrule
    rw [checkNodes, hclear]
    exact checkNodes_eq_ok clear' hrest

/-- **The check of nodes misses none**: if it finds nothing, all nodes are settled, and
otherwise it names the first registration with a node that is not. -/
theorem checkNodes_spec {registered : List (String × Rule)} {settled : RuleId → Bool}
    (hseparates : Scope.empty.Separates registered) :
    ∀ {rules : List (String × Rule)} {clear : Std.HashSet RuleId},
      (∀ registration ∈ rules, Scope.empty.Below registered registration.2) →
      Rule.Clears registered settled clear →
      (checkNodes settled clear rules = .ok () ∧
        ∀ registration ∈ rules, ∀ id ∈ registration.2.nodes, settled id = true) ∨
      ∃ before name rule after, rules = before ++ (name, rule) :: after ∧
        (∀ earlier ∈ before, ∀ id ∈ earlier.2.nodes, settled id = true) ∧
        (∃ id ∈ rule.nodes, settled id = false) ∧
        checkNodes settled clear rules = .error (.unnamedNode name)
  | [], _, _, _ => .inl ⟨rfl, List.forall_mem_nil _⟩
  | (name, rule) :: rest, clear, hrules, hclear => by
    obtain ⟨hrule, hrest⟩ := List.forall_mem_cons.1 hrules
    rw [checkNodes]
    split
    · rename_i clear' hfound
      obtain ⟨hnodes, hclear'⟩ :=
        rule.settled_of_clearOf? hseparates clear clear' hrule hclear hfound
      rcases checkNodes_spec hseparates hrest hclear' with ⟨hok, hall⟩ |
        ⟨before, name', rule', after, rfl, hbefore, hlacks, herror⟩
      · exact .inl ⟨hok, List.forall_mem_cons.2 ⟨hnodes, hall⟩⟩
      · exact .inr ⟨(name, rule) :: before, name', rule', after, rfl,
          List.forall_mem_cons.2 ⟨hnodes, hbefore⟩, hlacks, herror⟩
    · rename_i hnone
      refine .inr ⟨[], name, rule, rest, rfl, List.forall_mem_nil _, ?_, rfl⟩
      by_contra hall
      push Not at hall
      obtain ⟨clear', hfound⟩ := rule.exists_clearOf? clear fun id hid => by
        simpa using hall id hid
      rw [hfound] at hnone
      cases hnone

/-- Only the check of nodes complains of a node. -/
theorem ne_unnamedNode_of_checkNames {error : GrammarError} {name : String} :
    ∀ {rules : List (String × Rule)} {known : List String},
      checkNames names known rules = .error error → error ≠ .unnamedNode name
  | [], _, h => by
    rw [checkNames] at h
    cases h
  | (first, rule) :: rest, known, h => by
    have hnew : checkNames.checkNew names known first rest = .error error →
        error ≠ .unnamedNode name := by
      intro h
      unfold checkNames.checkNew at h
      split at h
      · cases h
        intro hnode
        cases hnode
      · exact ne_unnamedNode_of_checkNames h
    rw [checkNames] at h
    split at h
    · cases h
      intro hnode
      cases hnode
    · split at h
      · split at h
        · cases h
          intro hnode
          cases hnode
        · exact hnew h
      · exact hnew h

theorem ne_unnamedNode_of_checkIdentities {error : GrammarError} {name : String} :
    ∀ {rules earlier : List (String × Rule)},
      checkIdentities earlier rules = .error error → error ≠ .unnamedNode name
  | [], _, h => nomatch h
  | (first, rule) :: rest, earlier, h => by
    rw [checkIdentities] at h
    split at h
    · cases h
      intro hnode
      cases hnode
    · exact ne_unnamedNode_of_checkIdentities h

/-- The root is the registration of the given name, or the first one. -/
theorem chooseRoot_spec (rules : List (String × Rule)) (root : Option String) :
    (∃ registration ∈ rules, chooseRoot rules root = .ok registration ∧
        (∀ name, root = some name → registration.1 = name) ∧
        (root = none → rules.head? = some registration)) ∨
      ((∃ name, root = some name ∧ name ∉ rules.map (·.1) ∧
          chooseRoot rules root = .error (.unknownRoot name)) ∨
        root = none ∧ rules = [] ∧ chooseRoot rules root = .error .missingRoot) := by
  cases root with
  | none =>
    cases rules with
    | nil => exact .inr (.inr ⟨rfl, rfl, rfl⟩)
    | cons first rest => exact .inl ⟨first, List.mem_cons_self, rfl, (fun _ h => by cases h), fun _ => rfl⟩
  | some name =>
    cases hlookup : rules.lookup name with
    | none =>
      refine .inr (.inl ⟨name, rfl, fun hmem => ?_, by rw [chooseRoot, hlookup]⟩)
      obtain ⟨registration, hregistration, rfl⟩ := List.mem_map.1 hmem
      rw [List.lookup_eq_none_iff] at hlookup
      simpa using hlookup registration hregistration
    | some rule =>
      obtain ⟨before, after, rfl, -⟩ := List.lookup_eq_some_iff.1 hlookup
      exact .inl ⟨(name, rule), List.mem_append_right _ List.mem_cons_self,
        by rw [chooseRoot, hlookup], fun _ h => Option.some.inj h, fun h => by cases h⟩

/-! ## Binding -/

/-- Rules that are registered once, and have no other name, get the names that they are
registered under, and no other rule gets one. -/
theorem bind_eq_ok (hids : (rules.map (·.2.id)).Nodup)
    (hbound : ∀ registration ∈ rules, ∀ bound, names[registration.2.id]? = some bound →
      bound = registration.1) :
    ∃ names', bind names rules = (.ok (), names') ∧
      (∀ registration ∈ rules, names'[registration.2.id]? = some registration.1) ∧
      ∀ id ∉ rules.map (·.2.id), names'[id]? = names[id]? := by
  induction rules generalizing names with
  | nil => exact ⟨names, rfl, by simp, fun _ _ => rfl⟩
  | cons registration rest ih =>
    obtain ⟨name, rule⟩ := registration
    obtain ⟨hrule, hrest⟩ := List.forall_mem_cons.1 hbound
    obtain ⟨hid, hids⟩ := List.nodup_cons.1 hids
    -- after the first binding, its rule has the name, and the other rules have what they had
    obtain ⟨bound, hfirst, hname, hother⟩ : ∃ bound : Names,
        bind names ((name, rule) :: rest) = bind bound rest ∧ bound[rule.id]? = some name ∧
        ∀ id, id ≠ rule.id → bound[id]? = names[id]? := by
      rw [bind]
      split
      · refine ⟨names.insert rule.id name, rfl, ?_, fun id hne => ?_⟩
        · rw [Std.HashMap.getElem?_insert, if_pos (beq_self_eq_true _)]
        · rw [Std.HashMap.getElem?_insert, if_neg]
          simpa using hne.symm
      · rename_i bound hfound
        obtain rfl : bound = name := hrule bound hfound
        exact ⟨names, if_pos rfl, hfound, fun _ _ => rfl⟩
    have hstill : ∀ registration ∈ rest, ∀ other,
        bound[registration.2.id]? = some other → other = registration.1 :=
      fun registration hmem other hfound => by
        have hne : registration.2.id ≠ rule.id := fun hsame =>
          hid (List.mem_map.2 ⟨registration, hmem, hsame⟩)
        exact hrest registration hmem other (hother _ hne ▸ hfound)
    obtain ⟨names', hbind, hnamed, hkept⟩ := ih hids hstill
    refine ⟨names', hfirst.trans hbind, List.forall_mem_cons.2 ⟨?_, hnamed⟩, fun id hmem => ?_⟩
    · exact (hkept rule.id hid).trans hname
    · rw [List.map_cons, List.mem_cons, not_or] at hmem
      rw [hkept id hmem.2, hother id hmem.1]

/-! ## Admissible drafts -/

/-- A node below the rule would have no name: it has none, and is not registered. -/
def Lacks (draft : Draft) (names : Names) (rule : Rule) : Prop :=
  ∃ id operand, rule.Reaches .empty (.node id operand) ∧ names[id]? = none ∧
    id ∉ draft.rules.map (·.2.id)

/-- What is asked of a draft where rules have these names: names that are there and
differ, rules that have no other name and differ, no node without a name below them, and
a root. -/
structure Admissible (draft : Draft) (names : Names) : Prop where
  name_ne : draft.name ≠ ""
  names_ne : ∀ registration ∈ draft.rules, registration.1 ≠ ""
  names_nodup : (draft.rules.map (·.1)).Nodup
  bound_eq : ∀ registration ∈ draft.rules, ∀ bound, names[registration.2.id]? = some bound →
    bound = registration.1
  ids_nodup : (draft.rules.map (·.2.id)).Nodup
  not_lacks : ∀ registration ∈ draft.rules, ¬draft.Lacks names registration.2
  root_mem : ∀ name, draft.root = some name → name ∈ draft.rules.map (·.1)
  rules_ne : draft.root = none → draft.rules ≠ []

variable {draft : Draft}

theorem settles_iff {id : RuleId} :
    settles names rules id = true ↔ names[id]? ≠ none ∨ id ∈ rules.map (·.2.id) := by
  rw [settles, Bool.or_eq_true, Std.HashMap.contains_eq_isSome_getElem?, Option.isSome_iff_ne_none]
  simp

theorem lacks_iff {rule : Rule} :
    draft.Lacks names rule ↔ ∃ id ∈ rule.nodes, settles names draft.rules id = false := by
  simp only [← Bool.not_eq_true, settles_iff, not_or, not_not, Rule.mem_nodes_iff_reaches]
  constructor
  · rintro ⟨id, operand, hreaches, hnone, hmem⟩
    exact ⟨id, ⟨operand, hreaches⟩, hnone, hmem⟩
  · rintro ⟨id, ⟨operand, hreaches⟩, hnone, hmem⟩
    exact ⟨id, operand, hreaches, hnone, hmem⟩

theorem not_lacks_iff {rule : Rule} :
    ¬draft.Lacks names rule ↔ ∀ id ∈ rule.nodes, settles names draft.rules id = true := by
  rw [lacks_iff]
  push Not
  simp only [Bool.not_eq_false]

/-! ## Building -/

theorem check_eq_bind :
    draft.check names =
      if draft.name.isEmpty then .error .emptyName
      else Except.bind (checkNames names [] draft.rules) fun _ =>
        Except.bind (checkIdentities [] draft.rules) fun _ =>
          Except.bind (checkNodes (settles names draft.rules) ∅ draft.rules) fun _ =>
            chooseRoot draft.rules draft.root := by
  unfold check
  cases draft.name.isEmpty <;> rfl

/-- The check of a draft goes through where its parts do. -/
theorem check_eq_ok_iff {root : String × Rule} :
    draft.check names = .ok root ↔ draft.name ≠ "" ∧ checkNames names [] draft.rules = .ok () ∧
      checkIdentities [] draft.rules = .ok () ∧
      checkNodes (settles names draft.rules) ∅ draft.rules = .ok () ∧
      chooseRoot draft.rules draft.root = .ok root := by
  rw [check_eq_bind, Ne, ← String.isEmpty_iff]
  cases draft.name.isEmpty <;> cases checkNames names [] draft.rules <;>
    cases checkIdentities [] draft.rules <;>
    cases checkNodes (settles names draft.rules) ∅ draft.rules <;> simp [Except.bind]

/-- A complaint of a node is that of the check of nodes. -/
theorem checkNodes_of_check {name : String}
    (h : draft.check names = .error (.unnamedNode name)) :
    checkNodes (settles names draft.rules) ∅ draft.rules = .error (.unnamedNode name) := by
  rw [check_eq_bind] at h
  split at h
  · cases h
  · cases hnames : checkNames names [] draft.rules with
    | error =>
      rw [hnames] at h
      cases h
      exact absurd rfl (ne_unnamedNode_of_checkNames hnames)
    | ok =>
      cases hidentities : checkIdentities [] draft.rules with
      | error =>
        rw [hnames, hidentities] at h
        cases h
        exact absurd rfl (ne_unnamedNode_of_checkIdentities hidentities)
      | ok =>
        cases hnodes : checkNodes (settles names draft.rules) ∅ draft.rules with
        | error =>
          rw [hnames, hidentities, hnodes] at h
          exact congrArg Except.error (Except.error.inj h)
        | ok =>
          rw [hnames, hidentities, hnodes] at h
          have hroot : chooseRoot draft.rules draft.root = .error (.unnamedNode name) := h
          rcases chooseRoot_spec draft.rules draft.root with ⟨registration, -, hok, -⟩ |
            ⟨other, -, -, herror⟩ | ⟨-, -, herror⟩
          · rw [hok] at hroot
            cases hroot
          · rw [herror] at hroot
            cases hroot
          · rw [herror] at hroot
            cases hroot

namespace Admissible

/-- An admissible draft passes its check, which gives the root that was asked for, or
the first registration. -/
theorem check_eq (h : draft.Admissible names) :
    ∃ registration ∈ draft.rules, draft.check names = .ok registration ∧
      (∀ name, draft.root = some name → registration.1 = name) ∧
      (draft.root = none → draft.rules.head? = some registration) := by
  have hnames : checkNames names [] draft.rules = .ok () := by
    refine checkNames_eq_ok_iff.2 ⟨fun registration hmem => ?_, h.names_nodup⟩
    exact ⟨String.isEmpty_eq_false_iff.2 (h.names_ne registration hmem), h.bound_eq registration hmem,
      List.not_mem_nil⟩
  have hidentities : checkIdentities [] draft.rules = .ok () :=
    checkIdentities_eq_ok_iff.2 ⟨fun _ _ => List.not_mem_nil, h.ids_nodup⟩
  have hnodes : checkNodes (settles names draft.rules) ∅ draft.rules = .ok () :=
    checkNodes_eq_ok ∅ fun registration hmem => not_lacks_iff.1 (h.not_lacks registration hmem)
  rcases chooseRoot_spec draft.rules draft.root with ⟨registration, hmem, hroot, hname, hfirst⟩ |
    ⟨name, hname, hmem, -⟩ | ⟨hroot, hrules, -⟩
  · exact ⟨registration, hmem,
      check_eq_ok_iff.2 ⟨h.name_ne, hnames, hidentities, hnodes, hroot⟩, hname, hfirst⟩
  · exact absurd (h.root_mem name hname) hmem
  · exact absurd hrules (h.rules_ne hroot)

/-- **An admissible draft becomes a grammar.** Its rules get the names that they are
registered under, and no other rule gets one. -/
theorem build_eq (h : draft.Admissible names) :
    ∃ registration ∈ draft.rules, ∃ names',
      draft.build names =
        (.ok ⟨draft.name, draft.rules, registration.1, registration.2⟩, names') ∧
      draft.check names = .ok registration ∧
      (∀ name, draft.root = some name → registration.1 = name) ∧
      (draft.root = none → draft.rules.head? = some registration) ∧
      (∀ registration ∈ draft.rules, names'[registration.2.id]? = some registration.1) ∧
      ∀ id ∉ draft.rules.map (·.2.id), names'[id]? = names[id]? := by
  obtain ⟨registration, hmem, hcheck, hroot⟩ := h.check_eq
  obtain ⟨names', hbind, hbound⟩ := bind_eq_ok h.ids_nodup h.bound_eq
  refine ⟨registration, hmem, names', ?_, hcheck, hroot.1, hroot.2, hbound⟩
  unfold build
  rw [hcheck]
  dsimp only
  rw [hbind]

end Admissible

/-- Only admissible drafts pass the check. -/
theorem admissible_of_check (hseparates : Scope.empty.Separates draft.rules)
    {root : String × Rule} (h : draft.check names = .ok root) : draft.Admissible names := by
  obtain ⟨hname, hnames, hidentities, hnodes, hroot⟩ := check_eq_ok_iff.1 h
  obtain ⟨hall, hnodup⟩ := checkNames_eq_ok_iff.1 hnames
  constructor
  case name_ne => exact hname
  case names_ne =>
    exact fun registration hmem => String.isEmpty_eq_false_iff.1 (hall registration hmem).1
  case names_nodup => exact hnodup
  case bound_eq => exact fun registration hmem => (hall registration hmem).2.1
  case ids_nodup => exact (checkIdentities_eq_ok_iff.1 hidentities).2
  case not_lacks =>
    rcases checkNodes_spec hseparates (fun _ => .of_mem) .empty with ⟨-, hsettled⟩ |
      ⟨before, name, rule, after, -, -, -, herror⟩
    · exact fun registration hmem => not_lacks_iff.2 (hsettled registration hmem)
    · rw [hnodes] at herror
      cases herror
  case root_mem =>
    intro name hsome
    rcases chooseRoot_spec draft.rules draft.root with ⟨registration, hmem, -, hasked, -⟩ |
      ⟨other, -, -, herror⟩ | ⟨hnone, -⟩
    · exact hasked name hsome ▸ List.mem_map_of_mem hmem
    · rw [hroot] at herror
      cases herror
    · rw [hnone] at hsome
      cases hsome
  case rules_ne =>
    rintro hnone hempty
    rw [hnone, hempty] at hroot
    cases hroot

/-- A draft that is refused for a node has one that would have no name, and the error
names the first registration that reaches one. -/
theorem exists_lacks_of_check (hseparates : Scope.empty.Separates draft.rules) {name : String}
    (h : draft.check names = .error (.unnamedNode name)) :
    ∃ before rule after, draft.rules = before ++ (name, rule) :: after ∧
      draft.Lacks names rule ∧ ∀ earlier ∈ before, ¬draft.Lacks names earlier.2 := by
  have hfailed := checkNodes_of_check h
  rcases checkNodes_spec hseparates (fun _ => .of_mem) .empty with ⟨hok, -⟩ |
    ⟨before, name', rule, after, hrules, hbefore, hlacks, herror⟩
  · rw [hok] at hfailed
    cases hfailed
  · rw [herror] at hfailed
    cases hfailed
    exact ⟨before, rule, after, hrules, lacks_iff.2 hlacks,
      fun earlier hmem => not_lacks_iff.2 (hbefore earlier hmem)⟩

/-- What holds of a draft that has become a grammar, and of names after that. -/
theorem registered_of_build (hseparates : Scope.empty.Separates draft.rules) {g : Grammar}
    {names' : Names} (h : draft.build names = (.ok g, names')) :
    draft.Admissible names ∧ g.name = draft.name ∧ g.rules = draft.rules ∧
      (g.rootName, g.root) ∈ g.rules ∧
      (∀ name, draft.root = some name → g.rootName = name) ∧
      (draft.root = none → g.rules.head? = some (g.rootName, g.root)) ∧
      (∀ registration ∈ g.rules, names'[registration.2.id]? = some registration.1) ∧
      ∀ id ∉ g.rules.map (·.2.id), names'[id]? = names[id]? := by
  cases hcheck : draft.check names with
  | error error =>
    unfold build at h
    rw [hcheck] at h
    cases h
  | ok root =>
    have hadmissible := admissible_of_check hseparates hcheck
    obtain ⟨registration, hmem, names₁, hbuild, -, hasked, hfirst, hbound, hkept⟩ :=
      hadmissible.build_eq
    rw [hbuild] at h
    cases h
    exact ⟨hadmissible, rfl, rfl, hmem, hasked, hfirst, hbound, hkept⟩

/-- **Registration is exact and atomic.** A draft becomes a grammar if and only if it is
admissible. If it does not, no name has changed, and a complaint of a node is about the
first registration that reaches one without a name. If it does, its rules are registered
in order, each has the name that it is registered under, no other rule's name has
changed, and the root is the registration that was asked for, or the first one. Rules
that are built have identities of their own, see `Builder.Built.separates`. -/
theorem build_exact (draft : Draft) (names : Names)
    (hseparates : Scope.empty.Separates draft.rules) :
    ((∃ g, (draft.build names).1 = .ok g) ↔ draft.Admissible names) ∧
      (∀ error, (draft.build names).1 = .error error → (draft.build names).2 = names ∧
        ∀ name, error = .unnamedNode name →
          ∃ before rule after, draft.rules = before ++ (name, rule) :: after ∧
            draft.Lacks names rule ∧ ∀ earlier ∈ before, ¬draft.Lacks names earlier.2) ∧
      ∀ g names', draft.build names = (.ok g, names') →
        g.name = draft.name ∧ g.rules = draft.rules ∧ (g.rootName, g.root) ∈ g.rules ∧
        (∀ name, draft.root = some name → g.rootName = name) ∧
        (draft.root = none → g.rules.head? = some (g.rootName, g.root)) ∧
        (∀ registration ∈ g.rules, names'[registration.2.id]? = some registration.1) ∧
        ∀ id ∉ g.rules.map (·.2.id), names'[id]? = names[id]? := by
  refine ⟨⟨?_, fun h => ?_⟩, fun error herror => ?_,
    fun g names' h => (registered_of_build hseparates h).2⟩
  · rintro ⟨g, hg⟩
    exact (registered_of_build hseparates (Prod.ext hg rfl)).1
  · obtain ⟨registration, -, names', hbuild, -⟩ := h.build_eq
    exact ⟨_, congrArg Prod.fst hbuild⟩
  · -- an admissible draft would have been built, so it was the check that failed
    cases hcheck : draft.check names with
    | ok root =>
      obtain ⟨registration, -, names', hbuild, -⟩ :=
        (admissible_of_check hseparates hcheck).build_eq
      rw [hbuild] at herror
      cases herror
    | error found =>
      have hbuild : draft.build names = (.error found, names) := by
        rw [build, hcheck]
      rw [hbuild] at herror ⊢
      cases herror
      refine ⟨rfl, ?_⟩
      rintro name rfl
      exact exists_lacks_of_check hseparates hcheck

/-- Quotations, with a letter that is not registered. -/
def quotation : Draft :=
  ⟨"quotation", [("Text", Quotation.text), ("Quoted", Quotation.quoted)], some "Text"⟩

/-- The letter has a name. -/
def letterNamed : Names := (∅ : Names).insert 1 "Letter"

theorem separates_quotation : Scope.empty.Separates quotation.rules := by
  have hcloses : Scope.empty.Closes Quotation.rules := ⟨Quotation.closes.operand_mem, nofun⟩
  exact hcloses.separates (by simp [quotation, Quotation.rules]) (by decide)

theorem admissible_quotation : quotation.Admissible letterNamed where
  name_ne := by decide
  names_ne := by decide
  names_nodup := by decide
  bound_eq := by
    simp [quotation, letterNamed, Quotation.text, Quotation.quoted, Rule.id]
  ids_nodup := by decide
  not_lacks := fun registration hmem => not_lacks_iff.2 <| by
    revert registration
    simp [quotation, letterNamed, Quotation.text, Quotation.quoted, Quotation.dotted,
      Quotation.letter, Rule.nodes, Rule.nodesAll, Rule.id, settles_iff]
  root_mem := by simp [quotation]
  rules_ne := by simp [quotation]

/-- Quotations of a letter that has its name already are registered, and the letter
keeps its name. Where it has none, they are refused, and nothing gets a name. -/
theorem build_exact_quotation :
    Scope.empty.Separates quotation.rules ∧
    (∃ g names', quotation.build letterNamed = (.ok g, names') ∧ g.rootName = "Text" ∧
      names'[0]? = some "Text" ∧ names'[3]? = some "Quoted" ∧ names'[1]? = some "Letter") ∧
    quotation.build ∅ = (.error (.unnamedNode "Text"), ∅) := by
  refine ⟨separates_quotation, ?_, ?_⟩
  · obtain ⟨haccepted, -, hregistered⟩ :=
      build_exact quotation letterNamed separates_quotation
    obtain ⟨g, hg⟩ := haccepted.2 admissible_quotation
    have hbuild : quotation.build letterNamed = (.ok g, (quotation.build letterNamed).2) :=
      Prod.ext hg rfl
    obtain ⟨-, hrules, -, hroot, -, hbound, hkept⟩ := hregistered g _ hbuild
    rw [hrules] at hbound hkept
    refine ⟨g, _, hbuild, hroot "Text" rfl, ?_, ?_, ?_⟩
    · exact hbound ("Text", Quotation.text) (by simp [quotation])
    · exact hbound ("Quoted", Quotation.quoted) (by simp [quotation])
    · rw [hkept 1 (by decide)]
      simp [letterNamed]
  · have hcheck : quotation.check ∅ = .error (.unnamedNode "Text") := by
      simp [quotation, check_eq_bind, checkNames, checkNames.checkNew, checkIdentities, checkNodes,
        Rule.clearOf?, Rule.clearOfAll?, settles, Quotation.text, Quotation.quoted,
        Quotation.dotted, Quotation.letter, Rule.id, Except.bind, String.isEmpty]
    have hrefused : (quotation.build ∅).1 = .error (.unnamedNode "Text") := by
      rw [build, hcheck]
    exact Prod.ext hrefused ((build_exact quotation ∅ separates_quotation).2.1 _ hrefused).1

/-! ## Drafts that stand alone -/

/-- Nothing in the draft gets in its way, and all nodes and keys that its rules contain
are those of its rules. -/
structure Closed (draft : Draft) : Prop where
  name_ne : draft.name.isEmpty = false
  names_ne : ∀ registration ∈ draft.rules, registration.1.isEmpty = false
  names_nodup : (draft.rules.map (·.1)).Nodup
  ids_nodup : (draft.rules.map (·.2.id)).Nodup
  node_mem : ∀ registration ∈ draft.rules, ∀ id ∈ registration.2.nodes,
    id ∈ draft.rules.map (·.2.id)
  key_mem : ∀ registration ∈ draft.rules, ∀ reference ∈ registration.2.references,
    reference.2 ∈ draft.rules.map (·.1)

namespace Closed

variable {rootName : String} {root : Rule}

/-- A draft that stands alone and has a root is admissible where its rules have no names
yet. -/
theorem admissible (h : draft.Closed)
    (hnew : ∀ registration ∈ draft.rules, names[registration.2.id]? = none)
    (hroot : chooseRoot draft.rules draft.root = .ok (rootName, root)) :
    draft.Admissible names where
  name_ne := String.isEmpty_eq_false_iff.1 h.name_ne
  names_ne := fun registration hmem => String.isEmpty_eq_false_iff.1 (h.names_ne registration hmem)
  names_nodup := h.names_nodup
  bound_eq := fun registration hmem bound hbound => by
    rw [hnew registration hmem] at hbound
    cases hbound
  ids_nodup := h.ids_nodup
  not_lacks := fun registration hmem => by
    rintro ⟨id, operand, hreaches, -, hnot⟩
    exact hnot (h.node_mem registration hmem id (Rule.mem_nodes_iff_reaches.2 ⟨operand, hreaches⟩))
  root_mem := fun name hname => by
    rcases chooseRoot_spec draft.rules draft.root with ⟨registration, hmem, -, hasked, -⟩ |
      ⟨other, -, -, herror⟩ | ⟨hnone, -⟩
    · exact hasked name hname ▸ List.mem_map_of_mem hmem
    · rw [hroot] at herror
      cases herror
    · rw [hnone] at hname
      cases hname
  rules_ne := fun hnone hempty => by
    rw [hnone, hempty] at hroot
    cases hroot

/-- **A draft that stands alone becomes a grammar** where its rules have no names yet.
They get the names that they are registered under, and no other rule gets one. -/
theorem build_eq (h : draft.Closed)
    (hnew : ∀ registration ∈ draft.rules, names[registration.2.id]? = none)
    (hroot : chooseRoot draft.rules draft.root = .ok (rootName, root)) :
    ∃ names', draft.build names = (.ok ⟨draft.name, draft.rules, rootName, root⟩, names') ∧
      (∀ registration ∈ draft.rules, names'[registration.2.id]? = some registration.1) ∧
      ∀ id ∉ draft.rules.map (·.2.id), names'[id]? = names[id]? := by
  obtain ⟨registration, -, names', hbuild, hcheck, -, -, hbound⟩ := (h.admissible hnew hroot).build_eq
  have hsame : registration = (rootName, root) := by
    have hchosen := (check_eq_ok_iff.1 hcheck).2.2.2.2
    rw [hroot] at hchosen
    exact (Except.ok.inj hchosen).symm
  subst hsame
  exact ⟨names', hbuild, hbound⟩

end Closed

end Draft

end Packrat
