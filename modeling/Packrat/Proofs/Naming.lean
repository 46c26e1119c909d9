import Packrat.Proofs.Origin
import Packrat.Proofs.Registration

/-!
# Names of tokens

The check of nodes does not look at what recursive rules stand for. It need not: where
these are rules of the same grammar, their nodes are looked at there, and every node that
a parse may come to has a name.

- `Draft.exists_name_of_build`: nodes below registered rules have names.
- `Parser.run_names`: tokens of a registered grammar carry these names.
-/

namespace Packrat

variable {scope : Scope} {rules : List (String × Rule)} {rule : Rule}

/-! ## Names of nodes -/

variable {draft : Draft} {names names' : Names} {g : Grammar}

namespace Draft

theorem rules_of_build (h : draft.build names = (.ok g, names')) : g.rules = draft.rules := by
  unfold build at h
  split at h
  · cases h
  · split at h
    · cases h
    · cases h
      rfl

/-- Where a grammar is registered, its rules have their names. -/
theorem name_of_build (hbuild : draft.build names = (.ok g, names'))
    (hseparates : Scope.empty.Separates g.rules) {registration : String × Rule}
    (hmem : registration ∈ g.rules) : names'[registration.2.id]? = some registration.1 := by
  obtain ⟨-, -, -, -, -, -, hbound, -⟩ :=
    registered_of_build (rules_of_build hbuild ▸ hseparates) hbuild
  exact hbound registration hmem

/-- Where a grammar is registered, all nodes below its rules have names. -/
theorem exists_name_of_build (hbuild : draft.build names = (.ok g, names'))
    (hseparates : Scope.empty.Separates g.rules) {id : RuleId} {operand : Rule}
    (hnode : Scope.empty.Below g.rules (.node id operand)) : ∃ name, names'[id]? = some name := by
  have hrules : g.rules = draft.rules := rules_of_build hbuild
  obtain ⟨hadmissible, -, -, -, -, -, hbound, hkept⟩ :=
    registered_of_build (hrules ▸ hseparates) hbuild
  obtain ⟨registration, hmem, hreaches⟩ := hnode
  by_cases hregistered : id ∈ g.rules.map (·.2.id)
  · obtain ⟨other, hother, rfl⟩ := List.mem_map.1 hregistered
    exact ⟨other.1, hbound other hother⟩
  · rw [hkept id hregistered]
    refine Option.ne_none_iff_exists'.1 fun hnone => ?_
    exact hadmissible.not_lacks registration (hrules ▸ hmem)
      ⟨id, operand, hreaches, hnone, hrules ▸ hregistered⟩

end Draft

/-! ## Names of tokens -/

/-- The token has the name that is bound to a node below the rule. -/
def Token.NamedBelow (scope : Scope) (names : Names) (rule : Rule) (t : Token) : Prop :=
  ∃ id operand, rule.Reaches scope (.node id operand) ∧ names[id]? = some t.name

/-- **Every token of a registered grammar carries a registered name**: the name of a node
below the rule that was parsed from. Only a root that was made over all that this rule
emitted carries the rule's own name. So the placeholders are names of tokens only where
they are names of rules. -/
theorem Parser.run_names (hbuild : draft.build names = (.ok g, names'))
    (hnames : ∀ id name, names'[id]? = some name → scope.name id = some name)
    (hrecurs : scope.Recurs g.rules) (hseparates : scope.Separates g.rules)
    {registration : String × Rule} (hmem : registration ∈ g.rules) (limits : Limits)
    (memoize complete : Bool) {input : String} {token : Token}
    (hrun : (Parser.run ⟨registration.2, limits, memoize⟩ scope input complete).result =
      .ok (.ok token)) :
    (∃ st cx, apply ⟨scope, limits⟩ limits.recursionLimit.toNat registration.2 (.start input)
        (.start memoize) = .ok (true, st) cx ∧
      (st.emitted.toList = [token] ∧
          (∀ t ∈ token.preorder, t.NamedBelow scope names' registration.2) ∨
        token.name = registration.1 ∧ token.children = st.emitted.toList ∧
          ∀ t ∈ Token.preorderAll token.children, t.NamedBelow scope names' registration.2)) ∧
      ∀ t ∈ token.preorder, t.name = Apply.unnamedNode ∨ t.name = unnamedRoot →
        ∃ rule, registration.2.Reaches scope rule ∧ names'[rule.id]? = some t.name := by
  have hbound : names'[registration.2.id]? = some registration.1 :=
    Draft.name_of_build hbuild hseparates.empty hmem
  obtain ⟨st, cx, happly, hroot, hcomes⟩ := run_comesFrom ⟨registration.2, limits, memoize⟩
    (hrecurs.resolves hmem) (hseparates.identifies hmem) complete hrun
  have hnamed : ∀ t ∈ Token.preorderAll st.emitted.toList,
      t.NamedBelow scope names' registration.2 := by
    intro t ht
    obtain ⟨id, operand, hreaches, hname⟩ := (hcomes t ht).exists_name_eq
    -- some registered rule has the node inside, where the check of the draft came by
    have hbelow : scope.Below g.rules (.node id operand) := ⟨registration, hmem, hreaches⟩
    obtain ⟨name, hfound⟩ :=
      Draft.exists_name_of_build hbuild hseparates.empty (hbelow.empty hrecurs)
    rw [hnames id name hfound, Option.getD_some] at hname
    exact ⟨id, operand, hreaches, hname ▸ hfound⟩
  have hplaceholder {t : Token} (h : t.NamedBelow scope names' registration.2) :
      ∃ rule, registration.2.Reaches scope rule ∧ names'[rule.id]? = some t.name := by
    obtain ⟨id, operand, hreaches, hfound⟩ := h
    exact ⟨.node id operand, hreaches, hfound⟩
  rcases hroot with honly | ⟨hname, hchildren⟩
  · rw [honly, Token.preorderAll_singleton] at hnamed
    exact ⟨⟨st, cx, happly, .inl ⟨honly, hnamed⟩⟩, fun t ht _ => hplaceholder (hnamed t ht)⟩
  · rw [← hchildren] at hnamed
    rw [hnames _ _ hbound, Option.getD_some] at hname
    refine ⟨⟨st, cx, happly, .inr ⟨hname, hchildren, hnamed⟩⟩, fun t ht _ => ?_⟩
    rw [Token.preorder_eq, List.mem_cons] at ht
    rcases ht with rfl | ht
    · exact ⟨registration.2, .refl, hname ▸ hbound⟩
    · exact hplaceholder (hnamed t ht)

/-! ## Names of quotations -/

namespace Quotation

theorem mem_of_below (h : Quotation.scope.Below Draft.quotation.rules rule) :
    rule ∈ Quotation.rules := by
  have hregistered : ∀ registration ∈ Draft.quotation.rules, registration.2 ∈ Quotation.rules := by
    simp [Draft.quotation, Quotation.rules]
  obtain ⟨registration, hmem, hreaches⟩ := h
  exact closes.mem_of_reaches (hregistered registration hmem) hreaches

theorem recurs : Quotation.scope.Recurs Draft.quotation.rules := by
  intro id key hbelow
  have hmem := mem_of_below hbelow
  simp only [Quotation.rules, text, quoted, dotted, letter, List.mem_cons, List.not_mem_nil,
    reduceCtorEq, or_false, false_or, Rule.recursive.injEq] at hmem
  obtain ⟨rfl, rfl⟩ := hmem
  exact ⟨("Text", text), List.mem_cons_self, rfl⟩

theorem separates : Quotation.scope.Separates Draft.quotation.rules := by
  have hids : (Quotation.rules.map Rule.id).Nodup := by decide
  exact fun rule rule' hrule hrule' hid =>
    List.inj_on_of_nodup_map hids (mem_of_below hrule) (mem_of_below hrule') hid

/-- What is registered, and what had a name before, has it in the scope. -/
theorem name_eq (hbound : ∀ registration ∈ Draft.quotation.rules,
      names'[registration.2.id]? = some registration.1)
    (hkept : ∀ id ∉ Draft.quotation.rules.map (·.2.id), names'[id]? = Draft.letterNamed[id]?)
    (id : RuleId) (name : String) (hname : names'[id]? = some name) :
    Quotation.scope.name id = some name := by
  by_cases hmem : id ∈ Draft.quotation.rules.map (·.2.id)
  · obtain ⟨registration, hregistration, rfl⟩ := List.mem_map.1 hmem
    rw [hbound registration hregistration] at hname
    cases hname
    simp only [Draft.quotation, List.mem_cons, List.not_mem_nil, or_false] at hregistration
    rcases hregistration with rfl | rfl <;> rfl
  · rw [hkept id hmem, Draft.letterNamed, Std.HashMap.getElem?_insert] at hname
    split at hname
    · rename_i hletter
      cases hname
      rw [← eq_of_beq hletter]
      rfl
    · rw [Std.HashMap.getElem?_empty] at hname
      cases hname

end Quotation

/-- A quotation of a letter that had its name before: no token of it has a placeholder
for a name. -/
theorem Parser.run_names_quotation :
    ∃ token, (Parser.run ⟨Quotation.text, .standard, false⟩ Quotation.scope "«é»" true).result =
        .ok (.ok token) ∧
      ∀ t ∈ token.preorder, t.name ≠ Apply.unnamedNode ∧ t.name ≠ unnamedRoot := by
  obtain ⟨registration, -, names', hbuild, -, -, -, hbound, hkept⟩ :=
    Draft.admissible_quotation.build_eq
  have hnames := Quotation.name_eq hbound hkept
  have hmatched : (Parser.run ⟨Quotation.text, .standard, false⟩ Quotation.scope "«é»"
      true).token?.isSome = true := by decide +kernel
  obtain ⟨token, hrun⟩ := Report.exists_of_isSome hmatched
  have htext : ("Text", Quotation.text) ∈ Draft.quotation.rules := List.mem_cons_self
  obtain ⟨-, hplaceholder⟩ := run_names hbuild hnames Quotation.recurs Quotation.separates htext
    .standard false true hrun
  have hnone : ∀ id name, Quotation.scope.name id = some name →
      name ≠ Apply.unnamedNode ∧ name ≠ unnamedRoot := by
    intro id name hname
    obtain ⟨before, after, heq, -⟩ := List.lookup_eq_some_iff.1 hname
    have hmem : (id, name) ∈ [(0, "Text"), (1, "Letter"), (3, "Quoted")] := by simp [heq]
    simp only [List.mem_cons, Prod.mk.injEq, List.not_mem_nil, or_false] at hmem
    rcases hmem with ⟨-, rfl⟩ | ⟨-, rfl⟩ | ⟨-, rfl⟩ <;> decide
  refine ⟨token, hrun, fun t ht => ⟨fun hname => ?_, fun hname => ?_⟩⟩
  · obtain ⟨rule, -, hfound⟩ := hplaceholder t ht (.inl hname)
    exact (hnone rule.id t.name (hnames _ _ hfound)).1 hname
  · obtain ⟨rule, -, hfound⟩ := hplaceholder t ht (.inr hname)
    exact (hnone rule.id t.name (hnames _ _ hfound)).2 hname

end Packrat
