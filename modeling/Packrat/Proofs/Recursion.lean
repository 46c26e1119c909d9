import Mathlib.Logic.Relation
import Packrat.Proofs.Memoization
import Packrat.Proofs.Occurrence

/-!
# Left recursion is always caught

Nothing in the engine looks out for a rule that is applied inside itself at one
place. Where a run meets no limit this does not happen: whatever is open asks,
step by step, for what is applied, and a rule that has an outcome does not come to
ask for itself. What is remembered does not break such a circle, since an outcome
is remembered only once it has been found.

- `Asks scope input`: deciding one rule at an offset takes another at an offset.
- `Evaluates.acc`: below a rule with an outcome, asking comes to an end.
- `Calls.descends`: the way from what is open to what is applied, step by step.
- `Descends.asks`: open applications ask for what is applied.
- `Calls.fresh`: a rule is applied where it is not open.
- `Parser.run_recursion`: runs that ask for what they have open meet a limit.
-/

namespace Packrat

open Relation Context

/-- To decide the first rule at its offset, the second one has to be decided at its
own. The rest of a sequence, choice or repetition is asked for as a rule. -/
inductive Asks (scope : Scope) (input : String) : Rule × Nat → Rule × Nat → Prop where
  | first {rule operand : Rule} {rest : List Rule} {pos : Nat} :
      rule.operands = operand :: rest → Asks scope input (rule, pos) (operand, pos)
  | target {id : RuleId} {key : String} {target : Rule} {pos : Nat} :
      scope.target id key = some target →
      Asks scope input (.recursive id key, pos) (target, pos)
  | seq {id : RuleId} {rule : Rule} {rest : List Rule} {pos mid : Nat} {tokens : List Token}
      {wants : List Want} :
      Evaluates scope input True rule pos (some (mid, tokens)) wants →
      Asks scope input (.seq id (rule :: rest), pos) (.seq id rest, mid)
  | choice {id : RuleId} {rule : Rule} {rest : List Rule} {pos : Nat} {wants : List Want} :
      Evaluates scope input True rule pos none wants →
      Asks scope input (.choice id (rule :: rest), pos) (.choice id rest, pos)
  | zeroOrMore {id : RuleId} {operand : Rule} {pos mid : Nat} {tokens : List Token}
      {wants : List Want} :
      Evaluates scope input True operand pos (some (mid, tokens)) wants → pos < mid →
      Asks scope input (.zeroOrMore id operand, pos) (.zeroOrMore id operand, mid)
  | oneOrMore {id : RuleId} {operand : Rule} {pos mid : Nat} {tokens : List Token}
      {wants : List Want} :
      Evaluates scope input True operand pos (some (mid, tokens)) wants → pos < mid →
      Asks scope input (.oneOrMore id operand, pos) (.zeroOrMore id operand, mid)

/-- What is left of a sequence, choice or repetition after its first part, where that part
has been decided. -/
inductive Proceeds (scope : Scope) (input : String) : Rule × Nat → Rule × Nat → Prop where
  | seq {id : RuleId} {rule : Rule} {rest : List Rule} {pos mid : Nat} {tokens : List Token}
      {wants : List Want} :
      Evaluates scope input True rule pos (some (mid, tokens)) wants →
      Proceeds scope input (.seq id (rule :: rest), pos) (.seq id rest, mid)
  | choice {id : RuleId} {rule : Rule} {rest : List Rule} {pos : Nat} {wants : List Want} :
      Evaluates scope input True rule pos none wants →
      Proceeds scope input (.choice id (rule :: rest), pos) (.choice id rest, pos)
  | zeroOrMore {id : RuleId} {operand : Rule} {pos mid : Nat} {tokens : List Token}
      {wants : List Want} :
      Evaluates scope input True operand pos (some (mid, tokens)) wants → pos < mid →
      Proceeds scope input (.zeroOrMore id operand, pos) (.zeroOrMore id operand, mid)
  | oneOrMore {id : RuleId} {operand : Rule} {pos mid : Nat} {tokens : List Token}
      {wants : List Want} :
      Evaluates scope input True operand pos (some (mid, tokens)) wants → pos < mid →
      Proceeds scope input (.oneOrMore id operand, pos) (.zeroOrMore id operand, mid)

variable {scope : Scope} {root rule : Rule} {input : String} {pos : Nat} {outcome : Outcome}
  {wants : List Want}

theorem Proceeds.asks {asker asked : Rule × Nat} (h : Proceeds scope input asker asked) :
    Asks scope input asker asked := by
  cases h with
  | seq heval => exact .seq heval
  | choice heval => exact .choice heval
  | zeroOrMore heval hlt => exact .zeroOrMore heval hlt
  | oneOrMore heval hlt => exact .oneOrMore heval hlt

/-! ## What has an outcome -/

theorem not_asks_of_isPrimitive (h : rule.isPrimitive = true) (next : Rule × Nat) :
    ¬Asks scope input (rule, pos) next := by
  intro hasks
  cases hasks with
  | first hoperands =>
    cases rule with
    | char | literal | regex | endOfInput => cases hoperands
    | _ => cases h
  | _ => cases h

/-- **Below a rule with an outcome, asking comes to an end.** -/
theorem Evaluates.acc (h : Evaluates scope input True rule pos outcome wants) :
    Acc (flip (Asks scope input)) (rule, pos) := by
  -- what a rule asks for is what its evaluation rests on: the outcome of an operand
  -- is determined, so nothing else can come after it
  induction h with
  | read hprimitive | unread hprimitive =>
    exact ⟨_, fun next hasks => absurd hasks (not_asks_of_isPrimitive hprimitive next)⟩
  | seq_nil | choice_nil =>
    refine ⟨_, fun next hasks => ?_⟩
    cases hasks with
    | first hoperands => cases hoperands
  | seq_failed hhead ih =>
    refine ⟨_, fun next hasks => ?_⟩
    cases hasks with
    | first hoperands => cases hoperands; exact ih
    | seq hhead' => cases (hhead.det hhead').1
  | seq_next hhead _ ih ih' =>
    refine ⟨_, fun next hasks => ?_⟩
    cases hasks with
    | first hoperands => cases hoperands; exact ih
    | seq hhead' => cases (hhead.det hhead').1; exact ih'
  | choice_first hhead ih =>
    refine ⟨_, fun next hasks => ?_⟩
    cases hasks with
    | first hoperands => cases hoperands; exact ih
    | choice hhead' => cases (hhead.det hhead').1
  | choice_next _ _ ih ih' =>
    refine ⟨_, fun next hasks => ?_⟩
    cases hasks with
    | first hoperands => cases hoperands; exact ih
    | choice => exact ih'
  | notAhead_failed _ ih | notAhead_matched _ ih | ahead_failed _ ih | ahead_matched _ ih
  | opt_taken _ ih | opt_left _ ih | node_failed _ ih | node_matched _ ih =>
    refine ⟨_, fun next hasks => ?_⟩
    cases hasks with
    | first hoperands => cases hoperands; exact ih
  | zeroOrMore_ended hhead ih =>
    refine ⟨_, fun next hasks => ?_⟩
    cases hasks with
    | first hoperands => cases hoperands; exact ih
    | zeroOrMore hhead' => cases (hhead.det hhead').1
  | zeroOrMore_stalled _ hhead hnot ih =>
    refine ⟨_, fun next hasks => ?_⟩
    cases hasks with
    | first hoperands => cases hoperands; exact ih
    | zeroOrMore hhead' hlt => cases (hhead.det hhead').1; exact absurd hlt hnot
  | zeroOrMore_next hhead _ _ ih ih' =>
    refine ⟨_, fun next hasks => ?_⟩
    cases hasks with
    | first hoperands => cases hoperands; exact ih
    | zeroOrMore hhead' => cases (hhead.det hhead').1; exact ih'
  | oneOrMore_failed hhead ih =>
    refine ⟨_, fun next hasks => ?_⟩
    cases hasks with
    | first hoperands => cases hoperands; exact ih
    | oneOrMore hhead' => cases (hhead.det hhead').1
  | oneOrMore_stalled _ hhead hnot ih =>
    refine ⟨_, fun next hasks => ?_⟩
    cases hasks with
    | first hoperands => cases hoperands; exact ih
    | oneOrMore hhead' hlt => cases (hhead.det hhead').1; exact absurd hlt hnot
  | oneOrMore_next hhead _ _ ih ih' =>
    refine ⟨_, fun next hasks => ?_⟩
    cases hasks with
    | first hoperands => cases hoperands; exact ih
    | oneOrMore hhead' => cases (hhead.det hhead').1; exact ih'
  | recursive htarget _ ih =>
    refine ⟨_, fun next hasks => ?_⟩
    cases hasks with
    | first hoperands => cases hoperands
    | target htarget' =>
      rw [htarget] at htarget'
      cases htarget'
      exact ih

/-- A circle can be gone round from any of its places, so none of them is accessible. -/
theorem not_transGen_self_of_acc {α : Type} {r : α → α → Prop} {a : α} (h : Acc (flip r) a) :
    ¬TransGen r a a := by
  induction h with
  | intro a _ ih =>
    intro hcircle
    obtain ⟨b, hab, hba⟩ := TransGen.head'_iff.1 hcircle
    exact ih b hab (.tail' hba hab)

/-- What a rule with an outcome asks for does not come to ask for itself. -/
theorem Evaluates.not_asks_self (h : Evaluates scope input True rule pos outcome wants)
    {asked : Rule × Nat} (hasked : ReflTransGen (Asks scope input) (rule, pos) asked) :
    ¬TransGen (Asks scope input) asked asked := by
  have hacc : Acc (flip (Asks scope input)) asked := by
    induction hasked with
    | refl => exact h.acc
    | tail _ hasks ih => exact ih.inv hasks
  exact not_transGen_self_of_acc hacc

/-! ## The way down to what is applied -/

variable {setting : Setting} {task : Task} {st after st' : ParseState} {cx cx₁ cx' : Context}
  {matched : Bool} {rule' : Rule}

/-- What a trusted application that is not abandoned comes to. -/
theorem Executes.evaluates (h : Executes setting (.application rule) st cx matched after cx')
    (hidentifies : setting.scope.Identifies root) (hrule : root.Reaches setting.scope rule)
    (hinput : st.input = input) (htrusted : cx.Trusted setting.scope root input)
    (hfatal : cx'.fatal = none) :
    ∃ outcome wants, Evaluates setting.scope input True rule st.position outcome wants ∧
      outcome.Realized st matched after := by
  subst hinput
  obtain ⟨outcome, wants, heval, hreal, -⟩ :=
    (h.adequate hidentifies hrule trivial htrusted.laid htrusted.sound fun _ => trivial).2 hfatal
  exact ⟨outcome, wants, heval 0, hreal⟩

theorem Executes.trusts (h : Executes setting (.application rule) st cx matched after cx')
    (hidentifies : setting.scope.Identifies root) (hrule : root.Reaches setting.scope rule)
    (hinput : st.input = input) (htrusted : cx.Trusted setting.scope root input) :
    cx'.Trusted setting.scope root input := by
  subst hinput
  exact h.trusted hidentifies hrule trivial htrusted

/-- Two conditions that follow a run from what is open down to what is applied: `applied`
on what is applied, and `pending` on what is left to do of the innermost application. -/
structure Descends (scope : Scope) (root : Rule) (input : String)
    (applied pending : List (Rule × Nat) → Rule × Nat → Prop) : Prop where
  entered {opened : List (Rule × Nat)} {rule : Rule} {pos : Nat} :
    root.Reaches scope rule → applied opened (rule, pos) →
      pending ((rule, pos) :: opened) (rule, pos)
  first {opened : List (Rule × Nat)} {rule operand : Rule} {rest : List Rule} {pos : Nat} :
    rule.operands = operand :: rest → pending opened (rule, pos) → applied opened (operand, pos)
  target {opened : List (Rule × Nat)} {id : RuleId} {key : String} {target : Rule} {pos : Nat} :
    scope.target id key = some target → pending opened (.recursive id key, pos) →
      applied opened (target, pos)
  proceeds {opened : List (Rule × Nat)} {whole rest : Rule × Nat} :
    Proceeds scope input whole rest → pending opened whole → pending opened rest

/-- The condition on a task: on an application as such, on parts of one as what is left. -/
def Task.Holds (applied pending : List (Rule × Nat) → Rule × Nat → Prop) (st : ParseState)
    (cx : Context) : Task → Prop
  | .application rule => applied (Trace.opened cx.trace) (rule, st.position)
  | task => ∃ id, pending (Trace.opened cx.trace) (task.asRule id, st.position)

variable {applied pending : List (Rule × Nat) → Rule × Nat → Prop}

/-- **The way from a task down to what is applied.** -/
theorem Calls.descends (h : Calls setting task st cx rule' st' cx')
    (hdescends : Descends setting.scope root input applied pending)
    (hidentifies : setting.scope.Identifies root) (hbelow : task.Below setting.scope root)
    (hposed : task.WellPosed) (hinput : st.input = input)
    (htrusted : cx.Trusted setting.scope root input) (hfatal : cx'.fatal = none)
    (hholds : task.Holds applied pending st cx) :
    applied (Trace.opened cx'.trace) (rule', st'.position) := by
  induction h with
  | self => exact hholds
  | @evaluated rule _ _ _ _ cx₁ _ henter _ _ ih =>
    refine ih hbelow trivial hinput (htrusted.entered henter) hfatal ⟨rule.id, ?_⟩
    rw [trace_enter henter, Trace.opened_enter]
    exact hdescends.entered hbelow hholds
  | @seq id _ _ _ _ _ _ _ ih | @choice id _ _ _ _ _ _ _ ih =>
    obtain ⟨_, hpending⟩ := hholds
    exact ih (fun _ hmem => hbelow.operand hmem) trivial hinput htrusted hfatal ⟨id, hpending⟩
  | notAhead _ ih | ahead _ ih =>
    obtain ⟨_, hpending⟩ := hholds
    exact ih (hbelow.operand (List.mem_singleton_self _)) trivial hinput htrusted.openLookahead
      hfatal (hdescends.first rfl hpending)
  | @zeroOrMore id _ _ _ _ _ _ _ ih =>
    obtain ⟨_, hpending⟩ := hholds
    exact ih (hbelow.operand (List.mem_singleton_self _)) (Nat.zero_le 1) hinput htrusted hfatal
      ⟨id, hpending⟩
  | @oneOrMore id _ _ _ _ _ _ _ ih =>
    obtain ⟨_, hpending⟩ := hholds
    exact ih (hbelow.operand (List.mem_singleton_self _)) (Nat.le_refl 1) hinput htrusted hfatal
      ⟨id, hpending⟩
  | opt _ ih | node _ ih =>
    obtain ⟨_, hpending⟩ := hholds
    exact ih (hbelow.operand (List.mem_singleton_self _)) trivial hinput htrusted hfatal
      (hdescends.first rfl hpending)
  | recursive htarget _ ih =>
    obtain ⟨_, hpending⟩ := hholds
    refine ih (hbelow.target htarget) trivial hinput (htrusted.record _) hfatal ?_
    show applied (Trace.opened _) _
    rw [(Nested.remarks (.record _ _ rfl)).opened_eq]
    exact hdescends.target htarget hpending
  | sequence_first _ ih | alternatives_first _ ih =>
    obtain ⟨_, hpending⟩ := hholds
    exact ih (hbelow _ List.mem_cons_self) trivial hinput htrusted hfatal
      (hdescends.first rfl hpending)
  -- what was applied before the call is decided, so that what is left goes on from there
  | sequence_next hhead hrest ih =>
    obtain ⟨id, hpending⟩ := hholds
    have hrule := hbelow _ List.mem_cons_self
    obtain ⟨outcome, wants, heval, hreal⟩ :=
      hhead.evaluates hidentifies hrule hinput htrusted (hrest.fatal_eq_none hfatal)
    obtain ⟨tokens, rfl, hext⟩ := hreal.exists_extends
    refine ih (fun rule hmem => hbelow rule (List.mem_cons_of_mem _ hmem)) trivial
      (hext.input_eq.trans hinput) (hhead.trusts hidentifies hrule hinput htrusted) hfatal
      ⟨id, ?_⟩
    rw [hhead.nested.opened_eq]
    exact hdescends.proceeds (.seq heval) hpending
  | alternatives_next hhead _ hrest ih =>
    obtain ⟨id, hpending⟩ := hholds
    have hrule := hbelow _ List.mem_cons_self
    obtain ⟨outcome, wants, heval, hreal⟩ :=
      hhead.evaluates hidentifies hrule hinput htrusted (hrest.fatal_eq_none hfatal)
    obtain rfl := hreal.eq_none
    refine ih (fun rule hmem => hbelow rule (List.mem_cons_of_mem _ hmem)) trivial hinput
      (hhead.trusts hidentifies hrule hinput htrusted) hfatal ⟨id, ?_⟩
    rw [hhead.nested.opened_eq]
    exact hdescends.proceeds (.choice heval) hpending
  | @repetition_first rule operand _ required _ _ _ _ _ ih =>
    obtain ⟨id, hpending⟩ := hholds
    have hfirst : ((Task.repetition rule operand required).asRule id).operands = [operand] := by
      cases required <;> rfl
    exact ih hbelow trivial hinput htrusted hfatal (hdescends.first hfirst hpending)
  | @repetition_next _ _ _ required _ _ _ _ _ _ hhead hlt hrest ih =>
    obtain ⟨id, hpending⟩ := hholds
    obtain ⟨outcome, wants, heval, hreal⟩ :=
      hhead.evaluates hidentifies hbelow hinput htrusted (hrest.fatal_eq_none hfatal)
    obtain ⟨tokens, rfl, hext⟩ := hreal.exists_extends
    have hnone : required - 1 = 0 := Nat.sub_eq_zero_of_le hposed
    refine ih hbelow (hnone ▸ Nat.zero_le 1) (hext.input_eq.trans hinput)
      (hhead.trusts hidentifies hbelow hinput htrusted) hfatal ⟨id, ?_⟩
    rw [hhead.nested.opened_eq, hnone]
    refine hdescends.proceeds ?_ hpending
    cases required with
    | zero => exact .zeroOrMore heval hlt
    | succ missing => exact .oneOrMore heval hlt

/-! ## What is open asks for what is applied -/

/-- **Open applications ask for what is applied**, and they are of rules below the root. -/
theorem Descends.asks (scope : Scope) (root : Rule) (input : String) :
    Descends scope root input
      (fun opened asked => ∀ asker ∈ opened,
        root.Reaches scope asker.1 ∧ TransGen (Asks scope input) asker asked)
      (fun opened asked => ∀ asker ∈ opened,
        root.Reaches scope asker.1 ∧ ReflTransGen (Asks scope input) asker asked) where
  entered hrule h := List.forall_mem_cons.2
    ⟨⟨hrule, .refl⟩, fun asker hmem => (h asker hmem).imp_right TransGen.to_reflTransGen⟩
  first hoperands h asker hmem :=
    (h asker hmem).imp_right fun hasks => .tail' hasks (.first hoperands)
  target htarget h asker hmem :=
    (h asker hmem).imp_right fun hasks => .tail' hasks (.target htarget)
  proceeds hproceeds h asker hmem :=
    (h asker hmem).imp_right fun hasks => hasks.tail hproceeds.asks

/-- What is remembered in a context of a run may be taken over. -/
theorem Context.Reachable.trusted (h : cx.Reachable setting root input)
    (hidentifies : setting.scope.Identifies root) : cx.Trusted setting.scope root input :=
  ⟨h.memoLaid, (h.sound hidentifies).mono fun _ => trivial⟩

/-- **A rule is applied where it is not open**, if its application is not abandoned. -/
theorem Calls.fresh {st₁ after₁ : ParseState} {cx₂ : Context} {matched₁ : Bool}
    (h : Calls setting (.application root) st cx rule st₁ cx₁)
    (happly : Executes setting (.application rule) st₁ cx₁ matched₁ after₁ cx₂)
    (hidentifies : setting.scope.Identifies root) (hcx : cx.Reachable setting root st.input)
    (hbegun : Trace.opened cx.trace = []) (hfatal : cx₂.fatal = none) {opened : Rule}
    (hopened : (opened, st₁.position) ∈ Trace.opened cx₁.trace) : opened.id ≠ rule.id := by
  intro hid
  obtain ⟨hrule, hinput, hcx₁⟩ := h.reachable .refl hcx
  have hasked := h.descends (.asks setting.scope root st.input) hidentifies .refl trivial rfl
    (hcx.trusted hidentifies) (happly.frame.fatal_eq_none hfatal) fun asker hmem => by
      rw [hbegun] at hmem
      cases hmem
  obtain ⟨hreaches, hasks⟩ := hasked _ hopened
  obtain rfl : opened = rule := hidentifies opened rule hreaches hrule hid
  obtain ⟨outcome, wants, heval, -⟩ :=
    happly.evaluates hidentifies hrule hinput (hcx₁.trusted hidentifies) hfatal
  exact heval.not_asks_self .refl hasks

namespace Parser

/-- **Left recursion is always caught.** In a run that ends without a limit error,
no rule is applied where it is open. A run whose root comes to ask for something
that asks for itself ends with a limit error. -/
theorem run_recursion (p : Parser) (scope : Scope) (hresolves : scope.Resolves p.root)
    (hidentifies : scope.Identifies p.root) (input : String) (complete : Bool) :
    ((∀ error, (p.run scope input complete).result ≠ .ok (.error (.limit error))) →
      ∀ before rule pos, before ++ [.enter rule pos] <+: (p.run scope input complete).events →
        ∀ opened, (opened, pos) ∈ Trace.opened before → opened.id ≠ rule.id) ∧
    ∀ asked, ReflTransGen (Asks scope input) (p.root, 0) asked →
      TransGen (Asks scope input) asked asked →
      ∃ error, (p.run scope input complete).result = .ok (.error (.limit error)) := by
  obtain ⟨matched, st, cx, happly, hexec⟩ := p.exists_run hresolves input
  have hstart : (Context.start p.memoize).Reachable (p.setting scope) p.root input :=
    .start p.memoize
  rw [p.run_eq_of_apply happly]
  constructor
  · intro hlimit before rule pos hentered opened hopened
    have hfatal : cx.fatal = none := fatal_eq_none_of_verdict hlimit
    obtain ⟨hcall, hrule, -, rfl, rfl, hprecedes⟩ := hexec.occurs List.nil_prefix hentered
    exact hcall.fresh hrule hidentifies hstart rfl (hprecedes.fatal_eq_none hfatal) hopened
  · intro asked hasked hcircle
    cases hfatal : cx.fatal with
    | some error => exact ⟨error, verdict_limit hfatal⟩
    | none =>
      obtain ⟨outcome, wants, heval, -⟩ :=
        hexec.evaluates hidentifies .refl rfl (hstart.trusted hidentifies) hfatal
      exact absurd hcircle (heval.not_asks_self hasked)

/-- A row is never found, although its second alternative would match at once, and
remembering outcomes does not help. In a quotation no rule is applied inside itself
at one place. -/
theorem run_recursion_row :
    (∃ error, ({ ofRule LeftRecursion.row with memoize := true }.run LeftRecursion.scope "xx"
      true).result = .ok (.error (.limit error))) ∧
    ∀ before rule pos,
      before ++ [.enter rule pos] <+:
        ((ofRule Quotation.text).run Quotation.scope "«é»" true).events →
      ∀ opened, (opened, pos) ∈ Trace.opened before → opened.id ≠ rule.id := by
  have hrow : TransGen (Asks LeftRecursion.scope "xx") (LeftRecursion.row, 0)
      (LeftRecursion.row, 0) :=
    .tail (.tail (.single (.first rfl)) (.first rfl)) (.target rfl)
  constructor
  · exact (run_recursion { ofRule LeftRecursion.row with memoize := true } LeftRecursion.scope
      LeftRecursion.resolves LeftRecursion.identifies "xx" true).2 _ .refl hrow
  · exact (run_recursion (ofRule Quotation.text) Quotation.scope Quotation.resolves
      Quotation.identifies "«é»" true).1
      (Report.result_ne_limit (by decide +kernel))

end Parser

end Packrat
