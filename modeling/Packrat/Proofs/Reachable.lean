import Packrat.Proofs.Adequacy
import Packrat.Proofs.Progress

/-!
# The contexts of a run

- `Context.Reachable setting root input`: the contexts in which a run over `input`
  may come to apply a rule below `root`, whatever it has applied before. What
  they remember is laid and sound.
- `Calls`: the applications that a task makes, in the states and contexts in
  which it makes them. `Calls.reachable`: these contexts are reachable.
-/

namespace Packrat

/-- The contexts in which rules below `root` are applied to `input`. A run begins
with a fresh one; it then applies rules, one after another or one inside the
other, and it looks ahead and finds what recursive rules stand for. -/
inductive Context.Reachable (setting : Setting) (root : Rule) (input : String) :
    Context → Prop where
  | start (memoize : Bool) : Reachable setting root input (.start memoize)
  | entered {rule : Rule} {pos : Nat} {cx cx₁ : Context} :
      Reachable setting root input cx → cx.enter setting.limits rule pos = (true, cx₁) →
      Reachable setting root input cx₁
  | resolved {id : RuleId} {target : Rule} {cx : Context} :
      Reachable setting root input cx →
      Reachable setting root input (cx.record (.resolved id target))
  | lookahead {cx : Context} :
      Reachable setting root input cx → Reachable setting root input cx.openLookahead
  | applied {rule : Rule} {st after : ParseState} {cx cx' : Context} {matched : Bool}
      {room : Nat} :
      Reachable setting root input cx → root.Reaches setting.scope rule → st.input = input →
      setting.limits.recursionLimit.toNat ≤ room + cx.depth →
      apply setting room rule st cx = .ok (matched, after) cx' →
      Reachable setting root input cx'

variable {setting : Setting} {root rule : Rule} {input : String} {st after : ParseState}
  {cx cx' : Context} {matched : Bool}

namespace Context.Reachable

theorem memoLaid (h : cx.Reachable setting root input) : cx.MemoLaid input := by
  induction h with
  | start memoize => exact .start memoize input
  | entered _ henter ih => exact ih.entered henter
  | resolved _ ih | lookahead _ ih => exact ih
  | applied _ _ hinput hroom happly ih =>
    subst hinput
    exact (((apply_eq_ok_iff hroom).1 happly).contract trivial ih).1

/-- What is remembered is sound. Only where a repetition has stalled, some of it
may come from a repetition that stalled. -/
theorem sound (h : cx.Reachable setting root input) (hidentifies : setting.scope.Identifies root) :
    cx.Sound setting.scope root input cx.HasStalled := by
  induction h with
  | start memoize => exact .start memoize
  | entered _ henter ih =>
    obtain ⟨-, -, rfl⟩ := enter_eq_true_iff.1 henter
    exact Sound.mono (ih.of_eq rfl rfl) (.of_suffix (List.suffix_cons ..))
  | resolved _ ih => exact Sound.mono (ih.of_eq rfl rfl) (Frame.record _ _).hasStalled
  | lookahead _ ih => exact ih
  | applied hcx hrule hinput hroom happly ih =>
    subst hinput
    have hexec := (apply_eq_ok_iff hroom).1 happly
    exact (hexec.adequate hidentifies hrule trivial hcx.memoLaid
      (ih.mono hexec.frame.hasStalled) fun h => h).1

/-- An execution of an application leads to a reachable context. -/
theorem of_executes (h : cx.Reachable setting root st.input)
    (hrule : root.Reaches setting.scope rule)
    (hexec : Executes setting (.application rule) st cx matched after cx') :
    cx'.Reachable setting root st.input :=
  have hroom := Nat.le_add_right setting.limits.recursionLimit.toNat cx.depth
  h.applied hrule rfl hroom ((apply_eq_ok_iff hroom).2 hexec)

end Context.Reachable

/-! ## Calls -/

/-- The task, begun in `st` and `cx`, comes to apply `rule` in `st'` and `cx'`. -/
inductive Calls (setting : Setting) :
    Task → ParseState → Context → Rule → ParseState → Context → Prop where
  | self {rule : Rule} {st : ParseState} {cx : Context} :
      Calls setting (.application rule) st cx rule st cx
  | evaluated {rule rule' : Rule} {st st' : ParseState} {cx cx₁ cx' : Context} :
      cx.enter setting.limits rule st.position = (true, cx₁) →
      cx₁.remembered? setting.scope rule st.position = none →
      Calls setting (.body rule) st cx₁ rule' st' cx' →
      Calls setting (.application rule) st cx rule' st' cx'
  | seq {id : RuleId} {rules : List Rule} {rule' : Rule} {st st' : ParseState}
      {cx cx' : Context} :
      Calls setting (.sequence st rules) st cx rule' st' cx' →
      Calls setting (.body (.seq id rules)) st cx rule' st' cx'
  | choice {id : RuleId} {rules : List Rule} {rule' : Rule} {st st' : ParseState}
      {cx cx' : Context} :
      Calls setting (.alternatives rules) st cx rule' st' cx' →
      Calls setting (.body (.choice id rules)) st cx rule' st' cx'
  | notAhead {id : RuleId} {operand rule' : Rule} {st st' : ParseState} {cx cx' : Context} :
      Calls setting (.application operand) st cx.openLookahead rule' st' cx' →
      Calls setting (.body (.notAhead id operand)) st cx rule' st' cx'
  | ahead {id : RuleId} {operand rule' : Rule} {st st' : ParseState} {cx cx' : Context} :
      Calls setting (.application operand) st cx.openLookahead rule' st' cx' →
      Calls setting (.body (.ahead id operand)) st cx rule' st' cx'
  | zeroOrMore {id : RuleId} {operand rule' : Rule} {st st' : ParseState} {cx cx' : Context} :
      Calls setting (.repetition (.zeroOrMore id operand) operand 0) st cx rule' st' cx' →
      Calls setting (.body (.zeroOrMore id operand)) st cx rule' st' cx'
  | oneOrMore {id : RuleId} {operand rule' : Rule} {st st' : ParseState} {cx cx' : Context} :
      Calls setting (.repetition (.oneOrMore id operand) operand 1) st cx rule' st' cx' →
      Calls setting (.body (.oneOrMore id operand)) st cx rule' st' cx'
  | opt {id : RuleId} {operand rule' : Rule} {st st' : ParseState} {cx cx' : Context} :
      Calls setting (.application operand) st cx rule' st' cx' →
      Calls setting (.body (.opt id operand)) st cx rule' st' cx'
  | node {id : RuleId} {operand rule' : Rule} {st st' : ParseState} {cx cx' : Context} :
      Calls setting (.application operand) st.scope cx rule' st' cx' →
      Calls setting (.body (.node id operand)) st cx rule' st' cx'
  | recursive {id : RuleId} {key : String} {target rule' : Rule} {st st' : ParseState}
      {cx cx' : Context} :
      setting.scope.target id key = some target →
      Calls setting (.application target) st (cx.record (.resolved id target)) rule' st' cx' →
      Calls setting (.body (.recursive id key)) st cx rule' st' cx'
  | sequence_first {origin attempt st' : ParseState} {rule rule' : Rule} {rest : List Rule}
      {cx cx' : Context} :
      Calls setting (.application rule) attempt cx rule' st' cx' →
      Calls setting (.sequence origin (rule :: rest)) attempt cx rule' st' cx'
  | sequence_next {origin attempt next st' : ParseState} {rule rule' : Rule} {rest : List Rule}
      {cx cx₁ cx' : Context} :
      Executes setting (.application rule) attempt cx true next cx₁ →
      Calls setting (.sequence origin rest) next cx₁ rule' st' cx' →
      Calls setting (.sequence origin (rule :: rest)) attempt cx rule' st' cx'
  | alternatives_first {st st' : ParseState} {rule rule' : Rule} {rest : List Rule}
      {cx cx' : Context} :
      Calls setting (.application rule) st cx rule' st' cx' →
      Calls setting (.alternatives (rule :: rest)) st cx rule' st' cx'
  | alternatives_next {st attempt st' : ParseState} {rule rule' : Rule} {rest : List Rule}
      {cx cx₁ cx' : Context} :
      Executes setting (.application rule) st cx false attempt cx₁ → cx₁.isAborted = false →
      Calls setting (.alternatives rest) st cx₁ rule' st' cx' →
      Calls setting (.alternatives (rule :: rest)) st cx rule' st' cx'
  | repetition_first {rule operand rule' : Rule} {required : Nat} {st st' : ParseState}
      {cx cx' : Context} :
      Calls setting (.application operand) st cx rule' st' cx' →
      Calls setting (.repetition rule operand required) st cx rule' st' cx'
  | repetition_next {rule operand rule' : Rule} {required : Nat} {st attempt st' : ParseState}
      {cx cx₁ cx' : Context} :
      Executes setting (.application operand) st cx true attempt cx₁ →
      st.position < attempt.position →
      Calls setting (.repetition rule operand (required - 1)) attempt cx₁ rule' st' cx' →
      Calls setting (.repetition rule operand required) st cx rule' st' cx'

/-- **Rules are applied in reachable contexts**, below the root and to the input. -/
theorem Calls.reachable {task : Task} {rule' : Rule} {st' : ParseState}
    (h : Calls setting task st cx rule' st' cx') (hbelow : task.Below setting.scope root)
    (hcx : cx.Reachable setting root st.input) :
    root.Reaches setting.scope rule' ∧ st'.input = st.input ∧
      cx'.Reachable setting root st.input := by
  induction h with
  | self => exact ⟨hbelow, rfl, hcx⟩
  | evaluated henter _ _ ih => exact ih hbelow (hcx.entered henter)
  | seq _ ih | choice _ ih => exact ih (fun _ hmem => hbelow.operand hmem) hcx
  | notAhead _ ih | ahead _ ih =>
    exact ih (hbelow.operand (List.mem_singleton_self _)) hcx.lookahead
  | zeroOrMore _ ih | oneOrMore _ ih | opt _ ih | node _ ih =>
    exact ih (hbelow.operand (List.mem_singleton_self _)) hcx
  | recursive htarget _ ih => exact ih (hbelow.target htarget) hcx.resolved
  | sequence_first _ ih | alternatives_first _ ih => exact ih (hbelow _ List.mem_cons_self) hcx
  | repetition_first _ ih => exact ih hbelow hcx
  | sequence_next hhead _ ih =>
    have hrule := hbelow _ List.mem_cons_self
    obtain ⟨tokens, hext⟩ := (hhead.contract trivial hcx.memoLaid).2.of_matched rfl
    rw [← hext.input_eq]
    exact ih (fun r hmem => hbelow r (List.mem_cons_of_mem _ hmem))
      (hext.input_eq ▸ hcx.of_executes hrule hhead)
  | alternatives_next hhead _ _ ih =>
    exact ih (fun r hmem => hbelow r (List.mem_cons_of_mem _ hmem))
      (hcx.of_executes (hbelow _ List.mem_cons_self) hhead)
  | repetition_next hoperand _ _ ih =>
    obtain ⟨tokens, hext⟩ := (hoperand.contract trivial hcx.memoLaid).2.of_matched rfl
    rw [← hext.input_eq]
    exact ih hbelow (hext.input_eq ▸ hcx.of_executes hbelow hoperand)

end Packrat
