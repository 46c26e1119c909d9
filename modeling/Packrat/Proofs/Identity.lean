import Packrat.Proofs.Graph
import Packrat.Rule.Build

/-!
# Identities of built rules

Rules are made by the constructors of `Builder` only, and no constructor gives an
identity twice. So a graph of built rules is identified by them, with names and
targets however they may be.

- `Builder.Constructs build operands`: `build` is a constructor, given `operands`.
- `Builder.Built rules next`: the rules that were made so far.
- `Builder.Built.separates`, `Builder.Built.identifies`: identities of built rules are
  theirs alone.
-/

namespace Packrat

namespace Builder

/-- The constructors of rules, and the rules that each is given. -/
inductive Constructs : Builder Rule → List Rule → Prop where
  | ch (c : Char) : Constructs (ch c) []
  | oneOf (chars : String) : Constructs (oneOf chars) []
  | noneOf (chars : String) : Constructs (noneOf chars) []
  | range (lo hi : Char) : Constructs (range lo hi) []
  | any : Constructs any []
  | satisfy (label : String) (test : Char → Bool) : Constructs (satisfy label test) []
  | literal (text : String) : Constructs (literal text) []
  | regex (pattern : String) : Constructs (regex pattern) []
  | endOfInput : Constructs endOfInput []
  | seq (rules : List Rule) : Constructs (seq rules) rules
  | choice (rules : List Rule) : Constructs (choice rules) rules
  | notAhead (rule : Rule) : Constructs (notAhead rule) [rule]
  | ahead (rule : Rule) : Constructs (ahead rule) [rule]
  | zeroOrMore (rule : Rule) : Constructs (zeroOrMore rule) [rule]
  | oneOrMore (rule : Rule) : Constructs (oneOrMore rule) [rule]
  | opt (rule : Rule) : Constructs (opt rule) [rule]
  | node (rule : Rule) : Constructs (node rule) [rule]
  | recursive (key : String) : Constructs (recursive key) []

variable {build : Builder Rule} {operands rules : List Rule} {next next' : RuleId} {rule : Rule}

/-- A constructor takes the next identity, and makes a rule of what it is given. -/
theorem Constructs.spec (h : Constructs build operands) (hbuild : build next = .ok (rule, next')) :
    rule.id = next ∧ next' = next + 1 ∧ rule.operands = operands := by
  cases h with
  | ch | any | satisfy | endOfInput | seq | notAhead | ahead | zeroOrMore | oneOrMore | opt | node
  | recursive =>
    cases hbuild
    exact ⟨rfl, rfl, rfl⟩
  | oneOf =>
    unfold Builder.oneOf at hbuild
    split at hbuild
    · cases hbuild
    · cases hbuild
      exact ⟨rfl, rfl, rfl⟩
  | noneOf =>
    unfold Builder.noneOf at hbuild
    split at hbuild
    · cases hbuild
    · cases hbuild
      exact ⟨rfl, rfl, rfl⟩
  | range =>
    unfold Builder.range at hbuild
    split at hbuild
    · cases hbuild
    · cases hbuild
      exact ⟨rfl, rfl, rfl⟩
  | literal =>
    unfold Builder.literal at hbuild
    split at hbuild
    · cases hbuild
    · cases hbuild
      exact ⟨rfl, rfl, rfl⟩
  | choice =>
    unfold Builder.choice at hbuild
    split at hbuild
    · cases hbuild
    · cases hbuild
      exact ⟨rfl, rfl, rfl⟩
  | regex pattern =>
    unfold Builder.regex at hbuild
    cases hcompile : Regex.compile pattern with
    | ok expression =>
      rw [hcompile] at hbuild
      cases hbuild
      exact ⟨rfl, rfl, rfl⟩
    | error error =>
      rw [hcompile] at hbuild
      cases hbuild

/-- Rules that were made one after another of those before, the last one first,
and the identity that the next one gets. -/
inductive Built : List Rule → RuleId → Prop where
  | start (next : RuleId) : Built [] next
  | step {rules operands : List Rule} {build : Builder Rule} {rule : Rule} {next next' : RuleId} :
      Built rules next → Constructs build operands → (∀ operand ∈ operands, operand ∈ rules) →
      build next = .ok (rule, next') → Built (rule :: rules) next'

namespace Built

variable {scope : Scope} {root : Rule}

theorem id_lt (h : Built rules next) : ∀ rule ∈ rules, rule.id < next := by
  induction h with
  | start => simp
  | step _ hconstructs _ hbuild ih =>
    obtain ⟨hid, rfl, -⟩ := hconstructs.spec hbuild
    intro rule hmem
    rcases List.mem_cons.1 hmem with rfl | hmem
    · exact hid ▸ Nat.lt_succ_self _
    · exact Nat.lt_succ_of_lt (ih rule hmem)

theorem nodup (h : Built rules next) : (rules.map Rule.id).Nodup := by
  induction h with
  | start => exact List.nodup_nil
  | step hbuilt hconstructs _ hbuild ih =>
    obtain ⟨hid, -, -⟩ := hconstructs.spec hbuild
    refine List.nodup_cons.2 ⟨fun hmem => ?_, ih⟩
    obtain ⟨rule, hrule, hsame⟩ := List.mem_map.1 hmem
    have hlt := hbuilt.id_lt rule hrule
    rw [hsame, hid] at hlt
    exact Nat.lt_irrefl _ hlt

theorem operand_mem (h : Built rules next) :
    ∀ rule ∈ rules, ∀ operand ∈ rule.operands, operand ∈ rules := by
  induction h with
  | start => simp
  | step _ hconstructs hoperands hbuild ih =>
    obtain ⟨-, -, heq⟩ := hconstructs.spec hbuild
    intro rule hmem operand hoperand
    rcases List.mem_cons.1 hmem with rfl | hmem
    · exact List.mem_cons_of_mem _ (hoperands operand (heq ▸ hoperand))
    · exact List.mem_cons_of_mem _ (ih rule hmem operand hoperand)

/-- **Identities of built rules are theirs alone**, in every scope whose recursive
rules stand for built rules. -/
theorem separates {registered : List (String × Rule)} (h : Built rules next)
    (hregistered : ∀ registration ∈ registered, registration.2 ∈ rules)
    (htargets : ∀ id key target, scope.target id key = some target → target ∈ rules) :
    scope.Separates registered :=
  have hcloses : scope.Closes rules :=
    ⟨h.operand_mem, fun id key target _ => htargets id key target⟩
  hcloses.separates hregistered h.nodup

theorem identifies (h : Built rules next) (hroot : root ∈ rules)
    (htargets : ∀ id key target, scope.target id key = some target → target ∈ rules) :
    scope.Identifies root := by
  have hseparates : scope.Separates [("", root)] := h.separates (by simpa using hroot) htargets
  exact hseparates.identifies (List.mem_singleton_self _)

end Built

end Builder

end Packrat
