import Packrat.Proofs.Contract
import Packrat.Proofs.Graph
import Packrat.Proofs.Semantics

/-!
# The engine computes what rules mean

An execution that is not abandoned comes out as its rule evaluates, and adds to
the record of expectations just what the evaluation wants. With remembered
outcomes this needs an invariant of the table: an entry is the outcome of the
rule with its identity, and whatever that evaluation wants is known already.

- `Outcome.Realized st outcome matched after`: the outcome, as a change of state.
- `Context.noted cx wants`: the record of expectations after `wants`.
- `Context.Sound`: the invariant of the table.
- `Task.Adequate`: that it is kept by a task, and that the task means what its rule means. There
  is a lemma for each way in which a task comes out of others: `of_task`, `next`, `lookahead`.
- `Executes.adequate`: executions are adequate.
-/

namespace Packrat

variable {setting : Setting} {scope : Scope} {root rule : Rule} {input : String} {stalls : Prop}
  {st mid after : ParseState} {cx cx₁ cx' : Context} {matched : Bool} {outcome : Outcome}
  {wants wants' : List Want} {tokens : List Token}

/-! ## Outcomes as changes of state -/

/-- What an outcome at the cursor of `st` makes of the state. -/
inductive Outcome.Realized (st : ParseState) : Outcome → Bool → ParseState → Prop where
  | failed {after : ParseState} : Realized st none false after
  | matched {tokens : List Token} {after : ParseState} :
      st.Extends tokens after → Realized st (some (after.position, tokens)) true after

/-- What is remembered of an outcome. -/
def Outcome.entry : Outcome → MemoEntry
  | none => .failed
  | some (stop, tokens) => .matched stop tokens

namespace Outcome.Realized

theorem eq_none (h : outcome.Realized st false after) : outcome = none := by
  cases h
  rfl

theorem exists_extends (h : outcome.Realized st true after) :
    ∃ tokens, outcome = some (after.position, tokens) ∧ st.Extends tokens after := by
  cases h with
  | matched hext => exact ⟨_, rfl, hext⟩

theorem of_some {stop : Nat} (h : Outcome.Realized st (some (stop, tokens)) matched after) :
    matched = true ∧ after.position = stop ∧ st.Extends tokens after := by
  generalize houtcome : (some (stop, tokens) : Outcome) = outcome at h
  cases h with
  | failed => cases houtcome
  | matched hext =>
    cases houtcome
    exact ⟨rfl, rfl, hext⟩

/-- An outcome that went on after a match. -/
theorem after_match (h : st.Extends tokens mid) (h' : outcome.Realized mid matched after) :
    (outcome.after tokens).Realized st matched after := by
  cases h' with
  | failed => exact .failed
  | matched hext => exact .matched (h.trans hext)

/-- What is remembered of an application is its outcome. -/
theorem entry_eq (h : outcome.Realized st matched after) :
    Apply.outcome st.emitted.size matched after = outcome.entry := by
  cases h with
  | failed => rfl
  | matched hext =>
    show MemoEntry.matched after.position (after.emitted.since st.emitted.size) = _
    rw [hext.since_eq]
    rfl

/-- Taking over what is remembered of an outcome realizes it. -/
theorem of_replays (h : Replays st outcome.entry matched after)
    (hlaid : outcome.entry.Laid st.input st.position) : outcome.Realized st matched after := by
  obtain _ | ⟨stop, tokens⟩ := outcome
  · cases h
    exact .failed
  · cases h with
    | @matched _ _ moved hseek =>
      have hext := ParseState.extends_pushAll hseek hlaid.2
      have hstop : (Apply.pushAll moved tokens).position = stop :=
        (ParseState.position_pushAll ..).trans (ParseState.seek_eq_ok hseek).2.1
      exact hstop ▸ .matched hext

/-- What realizes an outcome can be had by taking it over. -/
theorem replays (h : outcome.Realized st matched after) (hfailed : matched = false → after = st) :
    Replays st outcome.entry matched after := by
  cases h with
  | failed =>
    rw [hfailed rfl]
    exact .failed
  | @matched tokens _ hext =>
    have hstop : Text.isBoundary after.position st.input = true :=
      hext.input_eq ▸ after.isBoundary_position
    obtain ⟨moved, hmoved⟩ := st.exists_seek_eq_ok hstop
    have hsame : after = Apply.pushAll moved tokens := by
      refine hext.unique (ParseState.extends_pushAll hmoved hext.ordered) ?_
      rw [ParseState.position_pushAll]
      exact (ParseState.seek_eq_ok hmoved).2.1.symm
    have hreplay : Replays st (.matched after.position tokens) true (Apply.pushAll moved tokens) :=
      .matched hmoved
    rwa [← hsame] at hreplay

end Outcome.Realized

/-! ## The record of expectations -/

namespace Context

theorem failure_rewound (source target : Nat) (cx : Context) :
    (cx.rewound source target).failure = cx.failure := by
  rcases rewound_eq source target cx with h | h <;> rw [h]
  rfl

theorem memo_rewound (source target : Nat) (cx : Context) :
    (cx.rewound source target).memo = cx.memo := by
  rcases rewound_eq source target cx with h | h <;> rw [h]
  rfl

/-- The record of expectations after `wants`. Inside a lookahead nothing counts. -/
def noted (cx : Context) (wants : List Want) : Failure :=
  if cx.quiet = 0 then cx.failure.noteAll wants else cx.failure

@[simp] theorem noted_nil (cx : Context) : cx.noted [] = cx.failure := ite_self _

/-- One record after another. -/
theorem noted_append (hquiet : cx₁.quiet = cx.quiet) (h : cx₁.failure = cx.noted wants) :
    cx₁.noted wants' = cx.noted (wants ++ wants') := by
  unfold noted at h ⊢
  rw [hquiet]
  split
  · rename_i hzero
    rw [h, if_pos hzero, Failure.noteAll_append]
  · rename_i hopen
    rw [h, if_neg hopen]

theorem noted_of_eq (hquiet : cx₁.quiet = cx.quiet) (hfailure : cx₁.failure = cx.failure) :
    cx₁.noted wants = cx.noted wants := by
  unfold noted
  rw [hquiet, hfailure]

/-- A lookahead leaves no trace in the record of expectations. -/
theorem noted_lookahead (hframe : Frame cx.openLookahead cx₁)
    (h : cx₁.failure = cx.openLookahead.noted wants) (source target : Nat) :
    (cx₁.closeLookahead.rewound source target).noted wants' = cx.noted wants' := by
  have hquiet := (hframe.lookahead source target).quiet_eq
  refine noted_of_eq hquiet ?_
  rw [failure_rewound]
  exact h.trans (if_neg (Nat.succ_ne_zero cx.quiet))

theorem noted_miss {pos : Nat} (h : cx.miss scope rule pos = some cx') :
    cx'.failure = cx.noted [(pos, rule.describe scope)] :=
  failure_miss h

/-! ## Soundness of what is remembered -/

/-- Every remembered outcome is that of the rule with its identity, and what the
rule wanted on the way is known. -/
def Sound (scope : Scope) (root : Rule) (input : String) (stalls : Prop) (cx : Context) : Prop :=
  ∀ table, cx.memo = some table → ∀ (id : RuleId) (pos : Nat) (entry : MemoEntry),
    table[(id, pos)]? = some entry →
    ∃ rule outcome wants, root.Reaches scope rule ∧ rule.id = id ∧
      Evaluates scope input stalls rule pos outcome wants ∧ entry = outcome.entry ∧
      ∀ want ∈ wants, cx.failure.Knows want

namespace Sound

theorem of_knows (h : cx.Sound scope root input stalls) (hmemo : cx'.memo = cx.memo)
    (hknows : ∀ want, cx.failure.Knows want → cx'.failure.Knows want) :
    cx'.Sound scope root input stalls := by
  intro table htable id pos entry hentry
  obtain ⟨rule, outcome, wants, hrule, hid, heval, heq, hwants⟩ :=
    h table (hmemo ▸ htable) id pos entry hentry
  exact ⟨rule, outcome, wants, hrule, hid, heval, heq, fun want hmem => hknows _ (hwants _ hmem)⟩

theorem of_eq (h : cx.Sound scope root input stalls) (hmemo : cx'.memo = cx.memo)
    (hfailure : cx'.failure = cx.failure) : cx'.Sound scope root input stalls :=
  h.of_knows hmemo fun _ hknows => hfailure ▸ hknows

theorem mono {stalls' : Prop} (h : cx.Sound scope root input stalls) (hstalls : stalls → stalls') :
    cx.Sound scope root input stalls' := by
  intro table htable id pos entry hentry
  obtain ⟨rule, outcome, wants, hrule, hid, heval, hrest⟩ := h table htable id pos entry hentry
  exact ⟨rule, outcome, wants, hrule, hid, heval.mono hstalls, hrest⟩

theorem start (memoize : Bool) : (Context.start memoize).Sound scope root input stalls := by
  intro table htable id pos entry hentry
  cases memoize with
  | true =>
    cases htable
    simp at hentry
  | false => cases htable

theorem entered {limits : Limits} {pos : Nat} (h : cx.Sound scope root input stalls)
    (henter : cx.enter limits rule pos = (true, cx₁)) : cx₁.Sound scope root input stalls := by
  obtain ⟨-, -, rfl⟩ := enter_eq_true_iff.1 henter
  exact h

theorem refused {limits : Limits} {pos : Nat} (h : cx.Sound scope root input stalls)
    (henter : cx.enter limits rule pos = (false, cx₁)) : cx₁.Sound scope root input stalls := by
  rcases enter_eq_false_iff.1 henter with ⟨-, -, rfl⟩ | ⟨-, -, -, rfl⟩ <;> exact h

theorem rewound (h : cx.Sound scope root input stalls) (source target : Nat) :
    (cx.rewound source target).Sound scope root input stalls :=
  h.of_eq (memo_rewound ..) (failure_rewound ..)

theorem lookahead (h : cx.Sound scope root input stalls) (source target : Nat) :
    (cx.closeLookahead.rewound source target).Sound scope root input stalls := by
  have hclosed : cx.closeLookahead.Sound scope root input stalls := h
  exact hclosed.rewound source target

/-- What is wanted in addition makes nothing unknown. -/
theorem of_noted (h : cx.Sound scope root input stalls) (hmemo : cx'.memo = cx.memo)
    (hfailure : cx'.failure = cx.noted wants) : cx'.Sound scope root input stalls := by
  refine h.of_knows hmemo fun want hknows => ?_
  rw [hfailure, noted]
  split
  · exact hknows.noteAll _
  · exact hknows

theorem miss {pos : Nat} (h : cx.Sound scope root input stalls)
    (hmiss : cx.miss scope rule pos = some cx') : cx'.Sound scope root input stalls :=
  h.of_noted (memo_miss hmiss) (noted_miss hmiss)

/-- A remembered outcome is what its rule evaluates to, and evaluating it again
would leave the record of expectations as it is. -/
theorem remembered {pos : Nat} {entry : MemoEntry} (h : cx.Sound scope root input stalls)
    (hidentifies : scope.Identifies root) (hrule : root.Reaches scope rule)
    (hentry : cx.remembered? scope rule pos = some entry) :
    ∃ outcome wants, Evaluates scope input stalls rule pos outcome wants ∧
      entry = outcome.entry ∧ cx.failure = cx.noted wants := by
  unfold remembered? at hentry
  split at hentry
  · rename_i hmemoizes
    obtain ⟨table, htable, hget⟩ := Option.bind_eq_some_iff.1 hentry
    obtain ⟨rule', outcome, wants, hrule', hid, heval, heq, hwants⟩ :=
      h table htable rule.id pos entry hget
    cases hidentifies rule' rule hrule' hrule hid
    refine ⟨outcome, wants, heval, heq, ?_⟩
    unfold noted
    rw [Failure.noteAll_eq_self hwants, ite_self]
  · cases hentry

/-- An outcome that is remembered on leaving an application is that of its rule. -/
theorem leave (h : cx.Sound scope root st.input stalls) (hrule : root.Reaches scope rule)
    (hmeans : cx.fatal = none → ∃ outcome wants,
      Evaluates scope st.input stalls rule st.position outcome wants ∧
      outcome.Realized st matched after ∧ (cx.quiet = 0 → ∀ want ∈ wants, cx.failure.Knows want)) :
    (cx.leave scope rule st matched after).Sound scope root st.input stalls := by
  intro table htable id pos entry hget
  rw [memo_leave] at htable
  rw [failure_leave]
  split at htable
  · rename_i hkeeps
    obtain ⟨before, hbefore, rfl⟩ := Option.map_eq_some_iff.1 htable
    rw [Std.HashMap.getElem?_insert] at hget
    split at hget
    · rename_i hkey
      simp only [beq_iff_eq, Prod.mk.injEq] at hkey
      obtain ⟨rfl, rfl⟩ := hkey
      cases hget
      simp only [memoizes, isAborted, Bool.and_eq_true, beq_iff_eq, Bool.not_eq_true',
        Option.isSome_eq_false_iff, Option.isNone_iff_eq_none] at hkeeps
      obtain ⟨⟨-, hquiet⟩, hfatal⟩ := hkeeps
      obtain ⟨outcome, wants, heval, hreal, hwants⟩ := hmeans hfatal
      exact ⟨rule, outcome, wants, hrule, rfl, heval, hreal.entry_eq, hwants hquiet⟩
    · exact h before hbefore id pos entry hget
  · exact h table htable id pos entry hget

end Sound

/-- A repetition has stalled. -/
def HasStalled (cx : Context) : Prop := ∃ rule pos, Event.stalled rule pos ∈ cx.log

theorem HasStalled.of_suffix (h : cx.log <:+ cx'.log) : cx.HasStalled → cx'.HasStalled
  | ⟨rule, pos, hmem⟩ => ⟨rule, pos, h.subset hmem⟩

theorem Frame.hasStalled (h : Frame cx cx') : cx.HasStalled → cx'.HasStalled :=
  .of_suffix h.log_suffix

end Context

/-! ## Adequacy -/

namespace Task

/-- The rule that a task stands for. The rest of a sequence is a sequence, and so
on; these have no identity of their own, and may be given any. -/
def asRule (id : RuleId) : Task → Rule
  | .application rule | .body rule => rule
  | .sequence _ rules => .seq id rules
  | .alternatives rules => .choice id rules
  | .repetition _ operand 0 => .zeroOrMore id operand
  | .repetition _ operand (_ + 1) => .oneOrMore id operand

/-- All that the task may come to apply is below `root`. -/
def Below (scope : Scope) (root : Rule) : Task → Prop
  | .application rule | .body rule => root.Reaches scope rule
  | .sequence _ rules | .alternatives rules => ∀ rule ∈ rules, root.Reaches scope rule
  | .repetition _ operand _ => root.Reaches scope operand

/-- What the task did is what its rule evaluates to. -/
def Means (task : Task) (scope : Scope) (stalls : Prop) (st : ParseState) (cx : Context)
    (matched : Bool) (after : ParseState) (cx' : Context) : Prop :=
  ∃ outcome wants,
    (∀ id, Evaluates scope st.input stalls (task.asRule id) st.position outcome wants) ∧
    outcome.Realized st matched after ∧ cx'.failure = cx.noted wants

/-- A task that goes on with another one after an operand has matched. -/
theorem Means.next {task task' : Task}
    (h : (Task.application rule).Means scope stalls st cx true mid cx₁)
    (h' : task'.Means scope stalls mid cx₁ matched after cx') (hquiet : cx₁.quiet = cx.quiet)
    (himp : ∀ id tokens outcome wants wants',
      Evaluates scope st.input stalls rule st.position (some (mid.position, tokens)) wants →
      Evaluates scope st.input stalls (task'.asRule id) mid.position outcome wants' →
      Evaluates scope st.input stalls (task.asRule id) st.position (outcome.after tokens)
        (wants ++ wants')) :
    task.Means scope stalls st cx matched after cx' := by
  obtain ⟨_, wants, heval, hreal, hfailure⟩ := h
  obtain ⟨tokens, rfl, hext⟩ := hreal.exists_extends
  obtain ⟨outcome, wants', heval', hreal', hfailure'⟩ := h'
  rw [hext.input_eq] at heval'
  refine ⟨_, wants ++ wants', fun id => himp id tokens outcome wants wants' (heval id) (heval' id),
    hreal'.after_match hext, ?_⟩
  rw [hfailure', Context.noted_append hquiet hfailure]

/-- What is remembered after the task is sound, and if it was not abandoned, it did what its rule
evaluates to. -/
structure Adequate (task : Task) (scope : Scope) (root : Rule) (stalls : Prop) (st : ParseState)
    (cx : Context) (matched : Bool) (after : ParseState) (cx' : Context) : Prop where
  sound : cx'.Sound scope root st.input stalls
  means : cx'.fatal = none → task.Means scope stalls st cx matched after cx'

namespace Adequate

variable {task task' : Task} {probed : Bool} {st₁ probe : ParseState}

/-- A task that makes its outcome of that of another one at the same place. -/
theorem of_task (h : task'.Adequate scope root stalls st₁ cx probed probe cx₁)
    (hinput : st₁.input = st.input) (hmemo : cx'.memo = cx₁.memo)
    (hfailure : cx'.failure = cx₁.failure) (hfatal : cx'.fatal = none → cx₁.fatal = none)
    (hmakes : ∀ outcome, outcome.Realized st₁ probed probe →
      ∃ outcome' : Outcome, outcome'.Realized st matched after ∧ ∀ id wants,
        (∀ id', Evaluates scope st.input stalls (task'.asRule id') st₁.position outcome wants) →
        Evaluates scope st.input stalls (task.asRule id) st.position outcome' wants) :
    task.Adequate scope root stalls st cx matched after cx' := by
  refine ⟨hinput ▸ h.sound.of_eq hmemo hfailure, fun hnone => ?_⟩
  obtain ⟨outcome, wants, heval, hreal, hwanted⟩ := h.means (hfatal hnone)
  obtain ⟨outcome', hreal', himp⟩ := hmakes outcome hreal
  rw [hinput] at heval
  exact ⟨outcome', wants, fun id => himp id wants heval, hreal', hfailure.trans hwanted⟩

/-- A task with the outcome of another one, where all is as that one left it. -/
theorem imp (h : task'.Adequate scope root stalls st cx matched after cx')
    (himp : ∀ id outcome wants, outcome.Realized st matched after →
      (∀ id', Evaluates scope st.input stalls (task'.asRule id') st.position outcome wants) →
      Evaluates scope st.input stalls (task.asRule id) st.position outcome wants) :
    task.Adequate scope root stalls st cx matched after cx' :=
  h.of_task rfl rfl rfl id fun outcome hreal =>
    ⟨outcome, hreal, fun id wants heval => himp id outcome wants hreal heval⟩

/-- A task that goes on with another one after an operand has matched. -/
theorem next (h : (Task.application rule).Adequate scope root stalls st cx true mid cx₁)
    (h' : task'.Adequate scope root stalls mid cx₁ matched after cx')
    (hinput : mid.input = st.input) (hframe : Context.Frame cx cx₁)
    (hframe' : Context.Frame cx₁ cx')
    (himp : ∀ id tokens outcome wants wants',
      Evaluates scope st.input stalls rule st.position (some (mid.position, tokens)) wants →
      Evaluates scope st.input stalls (task'.asRule id) mid.position outcome wants' →
      Evaluates scope st.input stalls (task.asRule id) st.position (outcome.after tokens)
        (wants ++ wants')) :
    task.Adequate scope root stalls st cx matched after cx' where
  sound := hinput ▸ h'.sound
  means hnone :=
    (h.means (hframe'.fatal_eq_none hnone)).next (h'.means hnone) hframe.quiet_eq himp

/-- A choice that goes on with its other alternatives after the first has failed. -/
theorem otherwise {rules : List Rule}
    (h : (Task.application rule).Adequate scope root stalls st cx false mid cx₁)
    (h' : (Task.alternatives rules).Adequate scope root stalls st cx₁ matched after cx')
    (hframe : Context.Frame cx cx₁) (hframe' : Context.Frame cx₁ cx') :
    (Task.alternatives (rule :: rules)).Adequate scope root stalls st cx matched after cx' := by
  refine ⟨h'.sound, fun hnone => ?_⟩
  obtain ⟨_, wants, heval, hreal, hfailure⟩ := h.means (hframe'.fatal_eq_none hnone)
  obtain rfl := hreal.eq_none
  obtain ⟨outcome, wants', heval', hreal', hfailure'⟩ := h'.means hnone
  refine ⟨outcome, wants ++ wants', fun id => .choice_next (heval id) (heval' id), hreal', ?_⟩
  rw [hfailure', Context.noted_append hframe.quiet_eq hfailure]

/-- **A lookahead.** Only whether its operand matches leaves the probe: what the operand wants
inside is left out, and the task wants what it says itself afterwards. -/
theorem lookahead {result : Outcome} {wants : List Want} {source target : Nat}
    (h : (Task.application rule).Adequate scope root stalls st cx.openLookahead probed probe cx₁)
    (hframe : Context.Frame cx.openLookahead cx₁)
    (hclosed : Context.Frame (cx₁.closeLookahead.rewound source target) cx')
    (hmemo : cx'.memo = (cx₁.closeLookahead.rewound source target).memo)
    (hfailure : cx'.failure = (cx₁.closeLookahead.rewound source target).noted wants)
    (hreal : result.Realized st matched after)
    (himp : ∀ id outcome wants', outcome.Realized st probed probe →
      Evaluates scope st.input stalls rule st.position outcome wants' →
      Evaluates scope st.input stalls (task.asRule id) st.position result wants) :
    task.Adequate scope root stalls st cx matched after cx' := by
  refine ⟨(h.sound.lookahead source target).of_noted hmemo hfailure, fun hnone => ?_⟩
  have hrewound := Context.Frame.rewound source target cx₁.closeLookahead
  obtain ⟨outcome, wants', heval, hprobe, hwanted⟩ :=
    h.means ((hrewound.trans hclosed).fatal_eq_none hnone)
  refine ⟨result, wants, fun id => himp id outcome wants' hprobe (heval id), hreal, ?_⟩
  rw [hfailure, Context.noted_lookahead hframe hwanted]

/-- An application that takes over what is remembered. -/
theorem recalled {limits : Limits} {entry : MemoEntry}
    (henter : cx.enter limits rule st.position = (true, cx₁))
    (hentry : cx₁.remembered? scope rule st.position = some entry)
    (hreplay : Replays st entry matched after) (hidentifies : scope.Identifies root)
    (hrule : root.Reaches scope rule) (hlaid : cx.MemoLaid st.input)
    (hsound : cx.Sound scope root st.input stalls) :
    (Task.application rule).Adequate scope root stalls st cx matched after
      (cx₁.leaveRecalled rule st entry) := by
  have hlaid₁ := hlaid.entered henter
  have hsound₁ := hsound.entered henter
  refine ⟨hsound₁, fun _ => ?_⟩
  obtain ⟨outcome, wants, heval, rfl, hknown⟩ := hsound₁.remembered hidentifies hrule hentry
  obtain ⟨-, -, rfl⟩ := Context.enter_eq_true_iff.1 henter
  exact ⟨outcome, wants, fun _ => heval, .of_replays hreplay (hlaid₁.remembered hentry), hknown⟩

/-- An application that does what its rule is made of, and may be remembered from then on. -/
theorem evaluated {limits : Limits}
    (h : (Task.body rule).Adequate scope root stalls st cx₁ matched after cx')
    (henter : cx.enter limits rule st.position = (true, cx₁)) (hframe : Context.Frame cx₁ cx')
    (hrule : root.Reaches scope rule) :
    (Task.application rule).Adequate scope root stalls st cx matched after
      (cx'.leave scope rule st matched after) := by
  refine ⟨h.sound.leave hrule fun hnone => ?_, fun hnone => ?_⟩
  · obtain ⟨outcome, wants, heval, hreal, hfailure⟩ := h.means hnone
    refine ⟨outcome, wants, heval 0, hreal, fun hquiet want hmem => ?_⟩
    rw [hframe.quiet_eq] at hquiet
    rw [hfailure, Context.noted, if_pos hquiet]
    exact Failure.knows_noteAll hmem
  · rw [Context.fatal_leave] at hnone
    obtain ⟨outcome, wants, heval, hreal, hfailure⟩ := h.means hnone
    obtain ⟨-, -, rfl⟩ := Context.enter_eq_true_iff.1 henter
    exact ⟨outcome, wants, heval, hreal, Context.failure_leave.trans hfailure⟩

end Adequate

end Task

/-- **Adequacy.** What is remembered stays sound, and an execution that is not
abandoned comes out as its rule evaluates. -/
theorem Executes.adequate {task : Task} (h : Executes setting task st cx matched after cx')
    (hidentifies : setting.scope.Identifies root) (hbelow : task.Below setting.scope root)
    (hposed : task.WellPosed) (hlaid : cx.MemoLaid st.input)
    (hsound : cx.Sound setting.scope root st.input stalls) (hstalls : cx'.HasStalled → stalls) :
    task.Adequate setting.scope root stalls st cx matched after cx' := by
  -- an entry is made where its rule has been evaluated and is used where the rule
  -- would be, so soundness and meaning need one another
  induction h with
  | refused henter =>
    refine ⟨hsound.refused henter, fun hfatal => ?_⟩
    rcases Context.enter_eq_false_iff.1 henter with ⟨error, herror, rfl⟩ | ⟨-, error, -, rfl⟩
    · rw [herror] at hfatal
      cases hfatal
    · cases hfatal
  | recalled henter hentry hreplay =>
    exact .recalled henter hentry hreplay hidentifies hbelow hlaid hsound
  | evaluated henter _ hbody ih =>
    have hinside := ih hbelow trivial (hlaid.entered henter) (hsound.entered henter)
      fun hstalled => hstalls (.of_suffix (by simp) hstalled)
    exact hinside.evaluated henter hbody.frame hbelow
  | read hprimitive hread hadvance =>
    have hext := ParseState.Extends.of_seek hadvance (Nat.le_add_right _ _)
    obtain ⟨-, hpos, -⟩ := ParseState.seek_eq_ok hadvance
    exact ⟨hsound, fun _ => ⟨_, [], fun _ => .read hprimitive hread, hpos ▸ .matched hext,
      (Context.noted_nil _).symm⟩⟩
  | unread hprimitive hread hmiss =>
    exact ⟨hsound.miss hmiss, fun _ => ⟨none, _, fun _ => .unread hprimitive hread, .failed,
      Context.noted_miss hmiss⟩⟩
  | seq _ ih | choice _ ih =>
    have hinside := ih (fun _ hmem => hbelow.operand hmem) trivial hlaid hsound hstalls
    exact hinside.imp fun _ _ _ _ heval => heval _
  | notAhead_failed hoperand hmiss ih =>
    have hclosed := Context.Frame.miss hmiss
    have hprobe := ih (hbelow.operand (List.mem_singleton_self _)) trivial hlaid hsound
      fun hstalled => hstalls (((Context.Frame.rewound _ _ _).trans hclosed).hasStalled hstalled)
    refine hprobe.lookahead hoperand.frame hclosed (Context.memo_miss hmiss)
      (Context.noted_miss hmiss) .failed fun _ _ _ hreal heval => ?_
    obtain ⟨tokens, rfl, -⟩ := hreal.exists_extends
    exact .notAhead_failed heval
  | notAhead_matched hoperand ih =>
    have hprobe := ih (hbelow.operand (List.mem_singleton_self _)) trivial hlaid hsound
      fun hstalled => hstalls ((Context.Frame.rewound _ _ _).hasStalled hstalled)
    refine hprobe.lookahead hoperand.frame (.refl _) rfl (Context.noted_nil _).symm
      (.matched (.refl _)) fun _ _ _ hreal heval => ?_
    obtain rfl := hreal.eq_none
    exact .notAhead_matched heval
  | ahead_failed hoperand hmiss ih =>
    have hclosed := Context.Frame.miss hmiss
    have hprobe := ih (hbelow.operand (List.mem_singleton_self _)) trivial hlaid hsound
      fun hstalled => hstalls (((Context.Frame.rewound _ _ _).trans hclosed).hasStalled hstalled)
    refine hprobe.lookahead hoperand.frame hclosed (Context.memo_miss hmiss)
      (Context.noted_miss hmiss) .failed fun _ _ _ hreal heval => ?_
    obtain rfl := hreal.eq_none
    exact .ahead_failed heval
  | ahead_matched hoperand ih =>
    have hprobe := ih (hbelow.operand (List.mem_singleton_self _)) trivial hlaid hsound
      fun hstalled => hstalls ((Context.Frame.rewound _ _ _).hasStalled hstalled)
    refine hprobe.lookahead hoperand.frame (.refl _) rfl (Context.noted_nil _).symm
      (.matched (.refl _)) fun _ _ _ hreal heval => ?_
    obtain ⟨tokens, rfl, -⟩ := hreal.exists_extends
    exact .ahead_matched heval
  | zeroOrMore hrepeat ih =>
    cases hrepeat.repetition_zero
    have hinside := ih (hbelow.operand (List.mem_singleton_self _)) (Nat.zero_le 1) hlaid hsound
      hstalls
    exact hinside.imp fun _ _ _ _ heval => heval _
  | oneOrMore _ ih =>
    have hinside := ih (hbelow.operand (List.mem_singleton_self _)) (Nat.le_refl 1) hlaid hsound
      hstalls
    exact hinside.imp fun _ _ _ _ heval => heval _
  | opt_taken _ _ ih =>
    have hoperand := ih (hbelow.operand (List.mem_singleton_self _)) trivial hlaid hsound hstalls
    refine hoperand.imp fun id _ _ hreal heval => ?_
    obtain ⟨tokens, rfl, -⟩ := hreal.exists_extends
    exact .opt_taken (heval id)
  | opt_left _ ih =>
    have hoperand := ih (hbelow.operand (List.mem_singleton_self _)) trivial hlaid hsound hstalls
    refine hoperand.of_task rfl rfl rfl id fun _ hreal => ⟨_, .matched (.refl _), ?_⟩
    obtain rfl := hreal.eq_none
    exact fun id _ heval => .opt_left (heval id)
  | node_failed _ ih =>
    have hoperand := ih (hbelow.operand (List.mem_singleton_self _)) trivial hlaid hsound hstalls
    refine hoperand.of_task rfl rfl rfl id fun _ hreal => ⟨none, .failed, ?_⟩
    obtain rfl := hreal.eq_none
    exact fun id _ heval => .node_failed (heval id)
  | node_matched _ _ htoken hseek ih =>
    have hoperand := ih (hbelow.operand (List.mem_singleton_self _)) trivial hlaid hsound
      fun hstalled => hstalls ((Context.Frame.record _ _).hasStalled hstalled)
    refine hoperand.of_task rfl rfl rfl id fun _ hreal => ?_
    obtain ⟨tokens, rfl, hext⟩ := hreal.exists_extends
    have hnode := extends_node hext htoken hseek
    obtain ⟨rfl, -⟩ := Token.make_eq_ok_iff.1 htoken
    obtain ⟨-, hpos, -⟩ := ParseState.seek_eq_ok hseek
    rw [hext.toList_eq rfl] at hnode ⊢
    exact ⟨_, hpos ▸ .matched hnode, fun id _ heval => .node_matched (heval id)⟩
  | recursive htarget _ ih =>
    have htask := ih (hbelow.target htarget) trivial hlaid hsound hstalls
    refine ⟨htask.sound, fun hfatal => ?_⟩
    obtain ⟨outcome, wants, heval, hrest⟩ := htask.means hfatal
    exact ⟨outcome, wants, fun id => .recursive htarget (heval id), hrest⟩
  | sequence_nil =>
    exact ⟨hsound, fun _ => ⟨_, [], fun _ => .seq_nil, .matched (.refl _),
      (Context.noted_nil _).symm⟩⟩
  | sequence_failed _ ih =>
    have hhead := ih (hbelow _ List.mem_cons_self) trivial hlaid hsound
      fun hstalled => hstalls ((Context.Frame.rewound _ _ _).hasStalled hstalled)
    refine hhead.of_task rfl (Context.memo_rewound ..) (Context.failure_rewound ..)
      (Context.Frame.rewound _ _ _).fatal_eq_none fun _ hreal => ⟨none, .failed, ?_⟩
    obtain rfl := hreal.eq_none
    exact fun id _ heval => .seq_failed (heval id)
  | sequence_next hhead hrest ih ih' =>
    have hfirst := ih (hbelow _ List.mem_cons_self) trivial hlaid hsound
      fun hstalled => hstalls (hrest.frame.hasStalled hstalled)
    obtain ⟨hlaid₁, hcontract⟩ := hhead.contract trivial hlaid
    obtain ⟨tokens, hext⟩ := hcontract.of_matched rfl
    have hmore := ih' (fun r hmem => hbelow r (List.mem_cons_of_mem _ hmem)) trivial
      (hext.input_eq ▸ hlaid₁) (hext.input_eq ▸ hfirst.sound) hstalls
    exact hfirst.next hmore hext.input_eq hhead.frame hrest.frame
      fun _ _ _ _ _ heval heval' => .seq_next heval heval'
  | alternatives_nil =>
    exact ⟨hsound, fun _ => ⟨none, [], fun _ => .choice_nil, .failed,
      (Context.noted_nil _).symm⟩⟩
  | alternatives_first _ _ ih =>
    have hhead := ih (hbelow _ List.mem_cons_self) trivial hlaid hsound hstalls
    refine hhead.imp fun id _ _ hreal heval => ?_
    obtain ⟨tokens, rfl, -⟩ := hreal.exists_extends
    exact .choice_first (heval id)
  | alternatives_aborted _ haborted ih =>
    refine ⟨(ih (hbelow _ List.mem_cons_self) trivial hlaid hsound hstalls).sound, fun hfatal => ?_⟩
    rw [Context.isAborted, hfatal] at haborted
    cases haborted
  | alternatives_next hhead _ hrest ih ih' =>
    have hfirst := ih (hbelow _ List.mem_cons_self) trivial hlaid hsound
      fun hstalled => hstalls (hrest.frame.hasStalled hstalled)
    have hmore := ih' (fun r hmem => hbelow r (List.mem_cons_of_mem _ hmem)) trivial
      (hhead.contract trivial hlaid).1 hfirst.sound hstalls
    exact hfirst.otherwise hmore hhead.frame hrest.frame
  -- without a match missing the task is a star, with one missing it is a plus
  | @repetition_ended _ _ required _ _ _ _ _ ih =>
    have hoperand := ih hbelow trivial hlaid hsound hstalls
    refine hoperand.of_task rfl rfl rfl id fun _ hreal => ?_
    obtain rfl := hreal.eq_none
    cases required with
    | zero => exact ⟨_, .matched (.refl _), fun id _ heval => .zeroOrMore_ended (heval id)⟩
    | succ missing => exact ⟨none, .failed, fun id _ heval => .oneOrMore_failed (heval id)⟩
  | @repetition_next _ _ required _ _ _ _ _ _ _ hoperand hlt _ hrepeat ih ih' =>
    have hfirst := ih hbelow trivial hlaid hsound
      fun hstalled => hstalls (hrepeat.frame.hasStalled hstalled)
    obtain ⟨hlaid₁, hcontract⟩ := hoperand.contract trivial hlaid
    obtain ⟨tokens, hext⟩ := hcontract.of_matched rfl
    have hnone : required - 1 = 0 := Nat.sub_eq_zero_of_le hposed
    rw [hnone] at ih'
    have hmore := ih' hbelow (Nat.zero_le 1) (hext.input_eq ▸ hlaid₁)
      (hext.input_eq ▸ hfirst.sound) hstalls
    refine hfirst.next hmore hext.input_eq hoperand.frame hrepeat.frame
      fun _ _ _ _ _ heval heval' => ?_
    cases required with
    | zero => exact .zeroOrMore_next heval hlt heval'
    | succ missing => exact .oneOrMore_next heval hlt heval'
  | repetition_dropped _ hnot ih =>
    have hstall := hstalls ⟨_, _, List.mem_cons_self⟩
    have hoperand := ih hbelow trivial hlaid hsound fun _ => hstall
    refine hoperand.of_task rfl rfl rfl id fun _ hreal => ⟨_, .matched (.refl _), ?_⟩
    obtain ⟨tokens, rfl, -⟩ := hreal.exists_extends
    exact fun id _ heval => .zeroOrMore_stalled hstall (heval id) hnot
  | repetition_kept _ hnot _ ih =>
    have hstall := hstalls ⟨_, _, List.mem_cons_self⟩
    have hoperand := ih hbelow trivial hlaid hsound fun _ => hstall
    refine hoperand.of_task rfl rfl rfl id fun _ hreal => ?_
    obtain ⟨tokens, rfl, hext⟩ := hreal.exists_extends
    exact ⟨_, .matched hext, fun id _ heval => .oneOrMore_stalled hstall (heval id) hnot⟩

end Packrat
