import Mathlib.Data.List.Nodup
import Packrat.Rule.Display

/-!
# Rule graphs

Rules are trees, and the scope closes them to a graph: a recursive rule leads on
to the rule that it stands for.

- `Rule.Reaches scope root rule`: a run that starts with `root` may come to
  apply `rule`.
- `Scope.Resolves`: everything that is reached and refers to a rule finds it.
- `Scope.Identifies`: an identity that is reached belongs to one rule only, which
  is what makes it a key for what is remembered of the rule.
- `Scope.Recurs`, `Scope.Separates`: the same of all that is below registered rules,
  which also are what the rules below them refer to.
- `Scope.Closes scope rules`: a finite list of rules that leads nowhere else. It
  makes these conditions a matter of looking through the list.
-/

namespace Packrat

/-- The rules below `root`: operands of operands, and what recursive rules stand
for. -/
inductive Rule.Reaches (scope : Scope) (root : Rule) : Rule → Prop where
  | refl : Reaches scope root root
  | operand {rule operand : Rule} :
      Reaches scope root rule → operand ∈ rule.operands → Reaches scope root operand
  | target {id : RuleId} {key : String} {target : Rule} :
      Reaches scope root (.recursive id key) → scope.target id key = some target →
      Reaches scope root target

/-- Every recursive rule below `root` stands for a rule. -/
def Scope.Resolves (scope : Scope) (root : Rule) : Prop :=
  ∀ id key, root.Reaches scope (.recursive id key) → ∃ target, scope.target id key = some target

/-- Below `root`, rules with one identity are one rule. Rules that are built have
identities of their own, see `Builder.Built.identifies`. -/
def Scope.Identifies (scope : Scope) (root : Rule) : Prop :=
  ∀ rule rule', root.Reaches scope rule → root.Reaches scope rule' →
    rule.id = rule'.id → rule = rule'

/-- The rule is below one of the registered rules. -/
def Scope.Below (scope : Scope) (rules : List (String × Rule)) (rule : Rule) : Prop :=
  ∃ registration ∈ rules, registration.2.Reaches scope rule

/-- Below the registered rules, rules with one identity are one rule. -/
def Scope.Separates (scope : Scope) (rules : List (String × Rule)) : Prop :=
  ∀ rule rule', scope.Below rules rule → scope.Below rules rule' → rule.id = rule'.id →
    rule = rule'

/-- What recursive rules below the registered ones stand for is registered too. -/
def Scope.Recurs (scope : Scope) (rules : List (String × Rule)) : Prop :=
  ∀ id key, scope.Below rules (.recursive id key) →
    ∃ registration ∈ rules, scope.target id key = some registration.2

namespace Scope

variable {scope : Scope} {rules : List (String × Rule)} {rule part : Rule}

theorem Below.of_mem {registration : String × Rule} (h : registration ∈ rules) :
    scope.Below rules registration.2 := ⟨registration, h, .refl⟩

theorem Below.operand (h : scope.Below rules rule) (hpart : part ∈ rule.operands) :
    scope.Below rules part := by
  obtain ⟨registration, hmem, hreaches⟩ := h
  exact ⟨registration, hmem, hreaches.operand hpart⟩

theorem Recurs.resolves (h : scope.Recurs rules) {registration : String × Rule}
    (hmem : registration ∈ rules) : scope.Resolves registration.2 := by
  intro id key hreaches
  obtain ⟨target, -, htarget⟩ := h id key ⟨registration, hmem, hreaches⟩
  exact ⟨target.2, htarget⟩

/-- Where keys lead to registered rules only, what is below these is below one of them
through operands alone. -/
theorem Below.empty (h : scope.Below rules rule) (hrecurs : scope.Recurs rules) :
    Scope.empty.Below rules rule := by
  obtain ⟨registration, hmem, hreaches⟩ := h
  induction hreaches with
  | refl => exact .of_mem hmem
  | operand _ hoperand ih => exact ih.operand hoperand
  | @target id key _ hreaches htarget =>
    obtain ⟨other, hother, hsame⟩ := hrecurs id key ⟨registration, hmem, hreaches⟩
    rw [htarget] at hsame
    cases hsame
    exact .of_mem hother

theorem Separates.identifies (h : scope.Separates rules) {registration : String × Rule}
    (hmem : registration ∈ rules) : scope.Identifies registration.2 :=
  fun rule rule' hrule hrule' => h rule rule' ⟨registration, hmem, hrule⟩ ⟨registration, hmem, hrule'⟩

/-- What is below a rule where no key stands for anything is below it in every scope. -/
theorem reaches_of_empty {root : Rule} (h : root.Reaches .empty rule) : root.Reaches scope rule := by
  induction h with
  | refl => exact .refl
  | operand _ hmem ih => exact ih.operand hmem
  | target _ htarget => cases htarget

theorem Separates.empty (h : scope.Separates rules) : Scope.empty.Separates rules := by
  have hbelow {rule : Rule} : Scope.empty.Below rules rule → scope.Below rules rule :=
    fun ⟨registration, hmem, hreaches⟩ => ⟨registration, hmem, reaches_of_empty hreaches⟩
  exact fun rule rule' hrule hrule' => h rule rule' (hbelow hrule) (hbelow hrule')

end Scope

namespace Rule

variable {scope : Scope} {root rule : Rule}

theorem Reaches.trans {below : Rule} (h : root.Reaches scope rule)
    (h' : rule.Reaches scope below) : root.Reaches scope below := by
  induction h' with
  | refl => exact h
  | operand _ hmem ih => exact ih.operand hmem
  | target _ htarget ih => exact ih.target htarget

/-- Below a rule with fewer operands there is nothing new but the rule itself. -/
theorem Reaches.of_operands {part below : Rule} (h : part.Reaches scope below)
    (hsubset : part.operands ⊆ rule.operands) (hpart : ∀ id key, part ≠ .recursive id key) :
    below = part ∨ rule.Reaches scope below := by
  induction h with
  | refl => exact .inl rfl
  | operand _ hmem ih =>
    rcases ih with rfl | ih
    · exact .inr (Reaches.refl.operand (hsubset hmem))
    · exact .inr (ih.operand hmem)
  | target _ htarget ih =>
    rcases ih with heq | ih
    · exact absurd heq.symm (hpart _ _)
    · exact .inr (ih.target htarget)

/-! ## Consultation stays below the rule -/

theorem sizeOf_lt_of_mem_operands {operand : Rule} (h : operand ∈ rule.operands) :
    sizeOf operand < sizeOf rule := by
  cases rule with
  | seq id rules | choice id rules =>
    have hlt : sizeOf operand < sizeOf rules := List.sizeOf_lt_of_mem h
    simp only [seq.sizeOf_spec, choice.sizeOf_spec]
    omega
  | notAhead id r | ahead id r | zeroOrMore id r | oneOrMore id r | opt id r | node id r =>
    rw [List.mem_singleton.1 h]
    simp only [notAhead.sizeOf_spec, ahead.sizeOf_spec, zeroOrMore.sizeOf_spec,
      oneOrMore.sizeOf_spec, opt.sizeOf_spec, node.sizeOf_spec]
    omega
  | char | literal | regex | endOfInput | recursive => cases h

theorem mem_of_mem_consultedAll {ref : RuleId × String} :
    ∀ {rules : List Rule}, ref ∈ consultedAll scope rules →
      ∃ rule ∈ rules, ref ∈ rule.consulted scope
  | [], h => by simp [consultedAll] at h
  | rule :: rest, h => by
    rw [consultedAll, List.mem_append] at h
    rcases h with h | h
    · split at h
      · cases h
      · exact ⟨rule, List.mem_cons_self, h⟩
    · obtain ⟨r, hr, href⟩ := mem_of_mem_consultedAll h
      exact ⟨r, List.mem_cons_of_mem _ hr, href⟩

/-- A rule is asked for because it is the one shown, or because of an operand. -/
theorem mem_consulted {id : RuleId} {key : String} (h : (id, key) ∈ rule.consulted scope) :
    rule = .recursive id key ∨ ∃ operand ∈ rule.operands, (id, key) ∈ operand.consulted scope := by
  cases rule with
  | char | literal | regex | endOfInput => simp [consulted] at h
  | seq _ rules | choice _ rules =>
    rw [consulted] at h
    exact .inr (mem_of_mem_consultedAll h)
  | notAhead _ r | ahead _ r | zeroOrMore _ r | oneOrMore _ r | opt _ r | node _ r =>
    rw [consulted] at h
    split at h
    · cases h
    · exact .inr ⟨r, List.mem_singleton_self r, h⟩
  | recursive =>
    simp only [consulted, List.mem_singleton, Prod.mk.injEq] at h
    obtain ⟨rfl, rfl⟩ := h
    exact .inl rfl

/-- Showing a rule asks only for what rules below it stand for. -/
theorem reaches_of_mem_consulted {id : RuleId} {key : String} (rule : Rule)
    (h : (id, key) ∈ rule.consulted scope) : rule.Reaches scope (.recursive id key) := by
  rcases mem_consulted h with rfl | ⟨operand, hmem, h⟩
  · exact .refl
  · have := sizeOf_lt_of_mem_operands hmem
    exact (Reaches.refl.operand hmem).trans (reaches_of_mem_consulted operand h)
termination_by sizeOf rule

end Rule

/-! ## Finite graphs -/

/-- What the rules are made of and what they stand for is among them. -/
structure Scope.Closes (scope : Scope) (rules : List Rule) : Prop where
  operand_mem : ∀ rule ∈ rules, ∀ operand ∈ rule.operands, operand ∈ rules
  target_mem : ∀ id key target, .recursive id key ∈ rules → scope.target id key = some target →
    target ∈ rules

namespace Scope.Closes

variable {scope : Scope} {rules : List Rule} {root rule : Rule}

theorem mem_of_reaches (h : scope.Closes rules) (hroot : root ∈ rules)
    (hrule : root.Reaches scope rule) : rule ∈ rules := by
  induction hrule with
  | refl => exact hroot
  | operand _ hmem ih => exact h.operand_mem _ ih _ hmem
  | target _ htarget ih => exact h.target_mem _ _ _ ih htarget

theorem resolves (h : scope.Closes rules) (hroot : root ∈ rules)
    (hfound : ∀ id key, .recursive id key ∈ rules → ∃ target, scope.target id key = some target) :
    scope.Resolves root :=
  fun id key hrule => hfound id key (h.mem_of_reaches hroot hrule)

theorem identifies (h : scope.Closes rules) (hroot : root ∈ rules)
    (hids : (rules.map Rule.id).Nodup) : scope.Identifies root := by
  intro rule rule' hrule hrule' hid
  exact List.inj_on_of_nodup_map hids (h.mem_of_reaches hroot hrule)
    (h.mem_of_reaches hroot hrule') hid

theorem separates {registered : List (String × Rule)} (h : scope.Closes rules)
    (hregistered : ∀ registration ∈ registered, registration.2 ∈ rules)
    (hids : (rules.map Rule.id).Nodup) : scope.Separates registered := by
  rintro rule rule' ⟨registration, hmem, hrule⟩ ⟨registration', hmem', hrule'⟩ hid
  exact List.inj_on_of_nodup_map hids (h.mem_of_reaches (hregistered _ hmem) hrule)
    (h.mem_of_reaches (hregistered _ hmem') hrule') hid

end Scope.Closes

/-! ## A graph with a cycle -/

namespace Quotation

/-- A letter outside ASCII. -/
def letter : Rule := .node 1 (.char 2 (.range 'À' 'ÿ'))

/-- A quotation of a quotation. -/
def quoted : Rule := .node 3 (.seq 4 [.literal 5 "«", .recursive 6 "Text", .literal 7 "»"])

/-- A letter that goes on. -/
def dotted : Rule := .seq 8 [letter, .literal 9 "…"]

/-- Quotations of letters: `Text <- '«' Text '»' / Letter '…' / Letter`. A letter
may be tried twice at one place. -/
def text : Rule := .choice 0 [quoted, dotted, letter]

/-- The names, and the rule that the inner quotation stands for. -/
def scope : Scope where
  name id := [(0, "Text"), (1, "Letter"), (3, "Quoted")].lookup id
  target id key := if id = 6 ∧ key = "Text" then some text else none

/-- All rules of the graph. -/
def rules : List Rule :=
  [text, quoted, dotted, letter, .seq 4 [.literal 5 "«", .recursive 6 "Text", .literal 7 "»"],
    .literal 5 "«", .recursive 6 "Text", .literal 7 "»", .literal 9 "…",
    .char 2 (.range 'À' 'ÿ')]

theorem closes : scope.Closes rules where
  operand_mem := by simp [rules, text, quoted, dotted, letter, Rule.operands]
  target_mem := by
    intro id key target _ htarget
    obtain ⟨-, htext⟩ := Option.ite_none_right_eq_some.1 htarget
    cases htext
    exact List.mem_cons_self

theorem resolves : scope.Resolves text :=
  closes.resolves List.mem_cons_self (by simp [rules, text, quoted, dotted, letter, scope])

theorem identifies : scope.Identifies text := closes.identifies List.mem_cons_self (by decide)

end Quotation

/-! ## A graph with left recursion -/

namespace LeftRecursion

/-- Letters in a row, the last one after the others: `Row <- Row 'x' / 'x'`. -/
def row : Rule := .choice 0 [.seq 1 [.recursive 2 "Row", .literal 3 "x"], .literal 4 "x"]

/-- The name of the row, and what it stands for inside itself. -/
def scope : Scope where
  name id := [(0, "Row")].lookup id
  target id key := if id = 2 ∧ key = "Row" then some row else none

/-- All rules of the graph. -/
def rules : List Rule :=
  [row, .seq 1 [.recursive 2 "Row", .literal 3 "x"], .recursive 2 "Row", .literal 3 "x",
    .literal 4 "x"]

theorem closes : scope.Closes rules where
  operand_mem := by simp [rules, row, Rule.operands]
  target_mem := by
    intro id key target _ htarget
    obtain ⟨-, hrow⟩ := Option.ite_none_right_eq_some.1 htarget
    cases hrow
    exact List.mem_cons_self

theorem resolves : scope.Resolves row :=
  closes.resolves List.mem_cons_self (by simp [rules, row, scope])

theorem identifies : scope.Identifies row := closes.identifies List.mem_cons_self (by decide)

end LeftRecursion

end Packrat
