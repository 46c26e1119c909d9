import Packrat.Proofs.Contract
import Packrat.Proofs.Graph

/-!
# Every application has an execution

Where every recursive rule stands for a rule, the engine never breaks a
precondition and never runs on for ever. Recursion is bounded by the applications
that may still be opened, repetition by the input that remains.

- `exists_executes`: an application that begins where the contract holds has an
  execution.
- `exists_apply_eq_ok`: the engine ends well on it.
-/

namespace Packrat

variable {setting : Setting} {root rule operand : Rule} {input : String}
  {st after : ParseState} {cx cx' : Context} {matched : Bool} {depth : Nat}

/-- Applications of the rules below `root` that begin with `depth` open ones or
more have executions. -/
def Progresses (setting : Setting) (root : Rule) (input : String) (depth : Nat) : Prop :=
  ∀ {rule st cx}, root.Reaches setting.scope rule → st.input = input → cx.MemoLaid input →
    depth ≤ cx.depth →
    ∃ matched after cx', Executes setting (.application rule) st cx matched after cx'

/-! ## Failures can be put into words -/

theorem Context.exists_consult {scope : Scope} : ∀ (refs : List (RuleId × String)) (cx : Context),
    (∀ ref ∈ refs, ∃ target, scope.target ref.1 ref.2 = some target) →
      ∃ cx', cx.consult scope refs = some cx'
  | [], cx, _ => ⟨cx, rfl⟩
  | (id, key) :: rest, cx, h => by
    obtain ⟨target, htarget⟩ := h (id, key) List.mem_cons_self
    obtain ⟨cx', hcx'⟩ := exists_consult rest (cx.record (.resolved id target))
      fun ref hmem => h ref (List.mem_cons_of_mem _ hmem)
    exact ⟨cx', by rw [consult, htarget]; exact hcx'⟩

theorem Scope.Resolves.exists_miss {scope : Scope} (hresolves : scope.Resolves root)
    (hrule : root.Reaches scope rule) (pos : Nat) (cx : Context) :
    ∃ cx', cx.miss scope rule pos = some cx' := by
  unfold Context.miss
  split
  · obtain ⟨cx', hcx'⟩ := Context.exists_consult (rule.consulted scope) cx
      fun ref hmem => hresolves _ _ (hrule.trans (Rule.reaches_of_mem_consulted rule hmem))
    exact ⟨_, by rw [hcx']; rfl⟩
  · exact ⟨cx, rfl⟩

/-! ## What an application hands on -/

/-- What the next step of a combinator relies on, after an application of one of
its operands. -/
theorem Executes.handOn (h : Executes setting (.application rule) st cx matched after cx')
    (hinput : st.input = input) (hmemo : cx.MemoLaid input) (hdepth : depth ≤ cx.depth) :
    cx'.MemoLaid input ∧ depth ≤ cx'.depth ∧
      (matched = true → after.input = input ∧ st.position ≤ after.position) := by
  subst hinput
  obtain ⟨hmemo', hcontract⟩ := h.contract trivial hmemo
  refine ⟨hmemo', by rw [h.frame.depth_eq]; exact hdepth, fun hmatched => ?_⟩
  obtain ⟨tokens, hext⟩ := hcontract.of_matched hmatched
  exact ⟨hext.input_eq, hext.position_le⟩

/-! ## Combinators -/

theorem exists_primitive (hresolves : setting.scope.Resolves root)
    (hrule : root.Reaches setting.scope rule) (hprimitive : rule.isPrimitive = true) :
    ∃ matched after cx', Executes setting (.body rule) st cx matched after cx' := by
  cases hread : rule.readsAt? st.input st.position with
  | some n =>
    obtain ⟨after, hafter⟩ := st.exists_seek_eq_ok (Rule.isBoundary_of_readsAt? hread)
    exact ⟨true, after, cx, .read hprimitive hread hafter⟩
  | none =>
    obtain ⟨cx', hmiss⟩ := hresolves.exists_miss hrule st.position cx
    exact ⟨false, st, cx', .unread hprimitive hread hmiss⟩

section Combinators

variable (hprogress : Progresses setting root input depth)

include hprogress

theorem exists_sequence {origin : ParseState} (horigin : origin.input = input) :
    ∀ {rules : List Rule} {attempt : ParseState} {cx : Context},
      (∀ rule ∈ rules, root.Reaches setting.scope rule) → attempt.input = input →
      cx.MemoLaid input → depth ≤ cx.depth →
      ∃ matched after cx', Executes setting (.sequence origin rules) attempt cx matched after cx'
  | [], attempt, cx, _, hinput, _, _ =>
    ⟨true, attempt, cx, .sequence_nil (horigin.trans hinput.symm)⟩
  | rule :: rest, attempt, cx, hrules, hinput, hmemo, hdepth => by
    have hrule := hrules rule List.mem_cons_self
    have hrest : ∀ rule' ∈ rest, root.Reaches setting.scope rule' :=
      fun rule' hmem => hrules rule' (List.mem_cons_of_mem _ hmem)
    obtain ⟨matched, next, cx₁, hhead⟩ := hprogress hrule hinput hmemo hdepth
    obtain ⟨hmemo₁, hdepth₁, hnext⟩ := hhead.handOn hinput hmemo hdepth
    cases matched with
    | false => exact ⟨false, origin, _, .sequence_failed hhead⟩
    | true =>
      obtain ⟨matched, after, cx', htail⟩ :=
        exists_sequence horigin hrest (hnext rfl).1 hmemo₁ hdepth₁
      exact ⟨matched, after, cx', .sequence_next hhead htail⟩

theorem exists_alternatives (hinput : st.input = input) :
    ∀ {rules : List Rule} {cx : Context}, (∀ rule ∈ rules, root.Reaches setting.scope rule) →
      cx.MemoLaid input → depth ≤ cx.depth →
      ∃ matched after cx', Executes setting (.alternatives rules) st cx matched after cx'
  | [], cx, _, _, _ => ⟨false, st, cx, .alternatives_nil⟩
  | rule :: rest, cx, hrules, hmemo, hdepth => by
    have hrule := hrules rule List.mem_cons_self
    have hrest : ∀ rule' ∈ rest, root.Reaches setting.scope rule' :=
      fun rule' hmem => hrules rule' (List.mem_cons_of_mem _ hmem)
    obtain ⟨matched, attempt, cx₁, hhead⟩ := hprogress hrule hinput hmemo hdepth
    obtain ⟨hmemo₁, hdepth₁, hattempt⟩ := hhead.handOn hinput hmemo hdepth
    cases matched with
    | true =>
      have hsame : st.input = attempt.input := hinput.trans (hattempt rfl).1.symm
      exact ⟨true, attempt, cx₁, .alternatives_first hhead hsame⟩
    | false =>
      cases haborted : cx₁.isAborted with
      | true => exact ⟨false, st, cx₁, .alternatives_aborted hhead haborted⟩
      | false =>
        obtain ⟨matched, after, cx', htail⟩ := exists_alternatives hinput hrest hmemo₁ hdepth₁
        exact ⟨matched, after, cx', .alternatives_next hhead haborted htail⟩

theorem exists_repetition (required : Nat) (hoperand : root.Reaches setting.scope operand)
    {st : ParseState} {cx : Context} (hinput : st.input = input) (hmemo : cx.MemoLaid input)
    (hdepth : depth ≤ cx.depth) :
    ∃ matched after cx',
      Executes setting (.repetition rule operand required) st cx matched after cx' := by
  obtain ⟨matched, attempt, cx₁, hattempt⟩ := hprogress hoperand hinput hmemo hdepth
  obtain ⟨hmemo₁, hdepth₁, hnext⟩ := hattempt.handOn hinput hmemo hdepth
  cases matched with
  | false => exact ⟨_, st, cx₁, .repetition_ended hattempt⟩
  | true =>
    have hsame : st.input = attempt.input := hinput.trans (hnext rfl).1.symm
    by_cases hpos : st.position < attempt.position
    -- less input remains for the next match
    · have hless := ParseState.remainder_lt hsame hpos
      obtain ⟨matched, after, cx', hrest⟩ :=
        exists_repetition (required - 1) hoperand (hnext rfl).1 hmemo₁ hdepth₁
      exact ⟨matched, after, cx', .repetition_next hattempt hpos hsame hrest⟩
    · cases required with
      | zero => exact ⟨true, st, _, .repetition_dropped hattempt hpos⟩
      | succ missing => exact ⟨true, attempt, _, .repetition_kept hattempt hpos hsame⟩
termination_by Text.utf8Length st.remainder

theorem exists_node {id : RuleId} (hoperand : root.Reaches setting.scope operand)
    (hinput : st.input = input) (hmemo : cx.MemoLaid input) (hdepth : depth ≤ cx.depth) :
    ∃ matched after cx', Executes setting (.body (.node id operand)) st cx matched after cx' := by
  have hscope : st.scope.input = input := hinput
  obtain ⟨matched, inner, cx₁, hinner⟩ := hprogress hoperand hscope hmemo hdepth
  cases matched with
  | false => exact ⟨false, st, cx₁, .node_failed hinner⟩
  | true =>
    subst hinput
    obtain ⟨tokens, hext⟩ := (hinner.contract trivial hmemo).2.of_matched rfl
    have hlog : inner.emitted.toList = tokens := hext.toList_eq rfl
    have hstop : Text.isBoundary inner.position st.input = true :=
      hext.input_eq ▸ inner.isBoundary_position
    have hordered : Token.Ordered st.input st.position tokens inner.position := hext.ordered
    obtain ⟨hmake, -⟩ := hordered.make_eq_ok ((setting.scope.name id).getD Apply.unnamedNode)
      st.isBoundary_position hstop
    obtain ⟨moved, hmoved⟩ := st.exists_seek_eq_ok hstop
    exact ⟨true, _, _, .node_matched hinner hext.position_le (hlog ▸ hmake) hmoved⟩

theorem exists_lookahead (hoperand : root.Reaches setting.scope operand)
    (hinput : st.input = input) (hmemo : cx.MemoLaid input) (hdepth : depth ≤ cx.depth) :
    ∃ matched probe cx₁,
      Executes setting (.application operand) st cx.openLookahead matched probe cx₁ := by
  have hopened : cx.openLookahead.MemoLaid input := hmemo
  exact hprogress hoperand hinput hopened hdepth

theorem exists_body (hresolves : setting.scope.Resolves root)
    (hrule : root.Reaches setting.scope rule) (hinput : st.input = input)
    (hmemo : cx.MemoLaid input) (hdepth : depth ≤ cx.depth) :
    ∃ matched after cx', Executes setting (.body rule) st cx matched after cx' := by
  have hoperands : ∀ operand ∈ rule.operands, root.Reaches setting.scope operand :=
    fun operand hmem => hrule.operand hmem
  cases rule with
  | char | literal | regex | endOfInput => exact exists_primitive hresolves hrule rfl
  | seq id rules =>
    obtain ⟨matched, after, cx', h⟩ :=
      exists_sequence hprogress hinput hoperands hinput hmemo hdepth
    exact ⟨matched, after, cx', .seq h⟩
  | choice id rules =>
    obtain ⟨matched, after, cx', h⟩ := exists_alternatives hprogress hinput hoperands hmemo hdepth
    exact ⟨matched, after, cx', .choice h⟩
  | notAhead id operand =>
    obtain ⟨matched, probe, cx₁, h⟩ := exists_lookahead hprogress
      (hoperands operand (List.mem_singleton_self _)) hinput hmemo hdepth
    cases matched with
    | false => exact ⟨true, st, _, .notAhead_matched h⟩
    | true =>
      obtain ⟨cx', hmiss⟩ := hresolves.exists_miss hrule st.position _
      exact ⟨false, st, cx', .notAhead_failed h hmiss⟩
  | ahead id operand =>
    obtain ⟨matched, probe, cx₁, h⟩ := exists_lookahead hprogress
      (hoperands operand (List.mem_singleton_self _)) hinput hmemo hdepth
    cases matched with
    | true => exact ⟨true, st, _, .ahead_matched h⟩
    | false =>
      obtain ⟨cx', hmiss⟩ := hresolves.exists_miss hrule st.position _
      exact ⟨false, st, cx', .ahead_failed h hmiss⟩
  | zeroOrMore id operand =>
    obtain ⟨matched, after, cx', h⟩ := exists_repetition hprogress _
      (hoperands operand (List.mem_singleton_self _)) hinput hmemo hdepth
    exact ⟨true, after, cx', .zeroOrMore h⟩
  | oneOrMore id operand =>
    obtain ⟨matched, after, cx', h⟩ := exists_repetition hprogress _
      (hoperands operand (List.mem_singleton_self _)) hinput hmemo hdepth
    exact ⟨matched, after, cx', .oneOrMore h⟩
  | opt id operand =>
    obtain ⟨matched, attempt, cx₁, h⟩ :=
      hprogress (hoperands operand (List.mem_singleton_self _)) hinput hmemo hdepth
    cases matched with
    | false => exact ⟨true, st, cx₁, .opt_left h⟩
    | true =>
      have hattempt := ((h.handOn hinput hmemo hdepth).2.2 rfl).1
      exact ⟨true, attempt, cx₁, .opt_taken h (hinput.trans hattempt.symm)⟩
  | node id operand =>
    exact exists_node hprogress (hoperands operand (List.mem_singleton_self _)) hinput hmemo
      hdepth
  | recursive id key =>
    obtain ⟨target, htarget⟩ := hresolves id key hrule
    have hresolved : (cx.record (.resolved id target)).MemoLaid input := hmemo
    obtain ⟨matched, after, cx', h⟩ :=
      hprogress (hrule.target htarget) hinput hresolved hdepth
    exact ⟨matched, after, cx', .recursive htarget h⟩

end Combinators

/-! ## Applications -/

/-- With every application that is opened, fewer may be opened inside it. -/
theorem progresses (hresolves : setting.scope.Resolves root) (input : String) :
    ∀ (room depth : Nat), setting.limits.recursionLimit.toNat ≤ room + depth →
      Progresses setting root input depth := by
  intro room
  induction room with
  | zero =>
    intro depth hroom rule st cx hrule hinput hmemo hdepth
    rcases henter : cx.enter setting.limits rule st.position with ⟨_ | _, cx₁⟩
    · exact ⟨false, st, cx₁, .refused henter⟩
    · have hlt := Context.depth_lt_of_limitMet?_eq_none (Context.enter_eq_true_iff.1 henter).2.1
      omega
  | succ room ih =>
    intro depth hroom rule st cx hrule hinput hmemo hdepth
    rcases henter : cx.enter setting.limits rule st.position with ⟨_ | _, cx₁⟩
    · exact ⟨false, st, cx₁, .refused henter⟩
    · have hdepth₁ : cx₁.depth = cx.depth + 1 := by
        obtain ⟨-, -, rfl⟩ := Context.enter_eq_true_iff.1 henter
        rfl
      have hmemo₁ := hmemo.entered henter
      cases hentry : cx₁.remembered? setting.scope rule st.position with
      | none =>
        obtain ⟨matched, after, cx₂, hbody⟩ := exists_body (ih (depth + 1) (by omega)) hresolves
          hrule hinput hmemo₁ (by omega)
        exact ⟨matched, after, _, .evaluated henter hentry hbody⟩
      | some entry =>
        have hlaid := hmemo₁.remembered hentry
        cases entry with
        | failed => exact ⟨false, st, _, .recalled henter hentry .failed⟩
        | matched stop tokens =>
          obtain ⟨moved, hmoved⟩ := st.exists_seek_eq_ok (hinput ▸ hlaid.1)
          exact ⟨true, _, _, .recalled henter hentry (.matched hmoved)⟩

/-- **Every application has an execution**, whatever its context has met and
remembers. -/
theorem exists_executes (hresolves : setting.scope.Resolves root)
    (hrule : root.Reaches setting.scope rule) (hmemo : cx.MemoLaid st.input) :
    ∃ matched after cx', Executes setting (.application rule) st cx matched after cx' :=
  progresses hresolves st.input setting.limits.recursionLimit.toNat cx.depth
    (Nat.le_add_right _ _) hrule rfl hmemo (Nat.le_refl _)

/-- **The engine breaks no precondition.** -/
theorem exists_apply_eq_ok (hresolves : setting.scope.Resolves root)
    (hrule : root.Reaches setting.scope rule) (hmemo : cx.MemoLaid st.input) {room : Nat}
    (hroom : setting.limits.recursionLimit.toNat ≤ room + cx.depth) :
    ∃ matched after cx', apply setting room rule st cx = .ok (matched, after) cx' ∧
      Executes setting (.application rule) st cx matched after cx' := by
  obtain ⟨matched, after, cx', h⟩ := exists_executes hresolves hrule hmemo
  exact ⟨matched, after, cx', (apply_eq_ok_iff hroom).2 h, h⟩

end Packrat
