import Packrat.Proofs.Engine

/-!
# The contract of rules

A rule that fails leaves the state as it was. A rule that matches has moved the
cursor ahead and emitted tokens that lie, in order, where it has read. Nothing
else is needed for the engine never to break a precondition.

- `Context.MemoLaid input cx`: remembered matches lie where they began.
- `Task.Contract`: what a task does to the state in which it is begun.
- `Executes.contract`: executions keep it, also those of an abandoned parse.
-/

namespace Packrat

variable {setting : Setting} {st after : ParseState} {cx cx₁ cx' : Context} {matched : Bool}

/-! ## Remembered outcomes -/

/-- A remembered match stops between two characters, and its tokens lie in order
between `pos` and there. -/
def MemoEntry.Laid (input : String) (pos : Nat) : MemoEntry → Prop
  | .failed => True
  | .matched stop tokens =>
    Text.isBoundary stop input = true ∧ Token.Ordered input pos tokens stop

/-- All remembered outcomes lie where they began. -/
def Context.MemoLaid (input : String) (cx : Context) : Prop :=
  ∀ table, cx.memo = some table → ∀ (id : RuleId) (pos : Nat) (entry : MemoEntry),
    table[(id, pos)]? = some entry → entry.Laid input pos

namespace Context.MemoLaid

variable {input : String} {rule : Rule}

theorem of_memo_eq (h : cx.MemoLaid input) (hmemo : cx'.memo = cx.memo) : cx'.MemoLaid input :=
  fun table htable => h table (hmemo ▸ htable)

theorem start (memoize : Bool) (input : String) : (Context.start memoize).MemoLaid input := by
  intro table htable id pos entry hentry
  cases memoize with
  | true =>
    cases htable
    simp at hentry
  | false => cases htable

theorem entered {limits : Limits} {pos : Nat} (h : cx.MemoLaid input)
    (henter : cx.enter limits rule pos = (true, cx₁)) : cx₁.MemoLaid input := by
  obtain ⟨-, -, rfl⟩ := enter_eq_true_iff.1 henter
  exact h

theorem refused {limits : Limits} {pos : Nat} (h : cx.MemoLaid input)
    (henter : cx.enter limits rule pos = (false, cx₁)) : cx₁.MemoLaid input := by
  rcases enter_eq_false_iff.1 henter with ⟨-, -, rfl⟩ | ⟨-, -, -, rfl⟩ <;> exact h

theorem rewound (h : cx.MemoLaid input) (source target : Nat) :
    (cx.rewound source target).MemoLaid input := by
  rcases rewound_eq source target cx with heq | heq
  · exact h.of_memo_eq (by rw [heq])
  · exact h.of_memo_eq (by rw [heq, memo_record])

theorem lookahead (h : cx.MemoLaid input) (source target : Nat) :
    (cx.closeLookahead.rewound source target).MemoLaid input := by
  have hclosed : cx.closeLookahead.MemoLaid input := h
  exact hclosed.rewound source target

theorem remembered {scope : Scope} {pos : Nat} {entry : MemoEntry} (h : cx.MemoLaid input)
    (hentry : cx.remembered? scope rule pos = some entry) : entry.Laid input pos := by
  unfold remembered? at hentry
  split at hentry
  · obtain ⟨table, htable, hget⟩ := Option.bind_eq_some_iff.1 hentry
    exact h table htable rule.id pos entry hget
  · cases hentry

theorem leave {scope : Scope} (h : cx.MemoLaid input)
    (hentry : (Apply.outcome st.emitted.size matched after).Laid input st.position) :
    (cx.leave scope rule st matched after).MemoLaid input := by
  intro table htable id pos entry hget
  rw [memo_leave] at htable
  split at htable
  · obtain ⟨before, hbefore, rfl⟩ := Option.map_eq_some_iff.1 htable
    rw [Std.HashMap.getElem?_insert] at hget
    split at hget
    · rename_i hkey
      simp only [beq_iff_eq, Prod.mk.injEq] at hkey
      obtain ⟨rfl, rfl⟩ := hkey
      cases hget
      exact hentry
    · exact h before hbefore id pos entry hget
  · exact h table htable id pos entry hget

end Context.MemoLaid

/-! ## The contract -/

/-- The state to which a task goes back when it fails. -/
def Task.origin (st : ParseState) : Task → ParseState
  | .sequence origin _ => origin
  | _ => st

/-- At most one match of a repetition is missing. -/
def Task.WellPosed : Task → Prop
  | .repetition _ _ required => required ≤ 1
  | _ => True

/-- A repetition that needs no match never fails. -/
theorem Executes.repetition_zero {rule operand : Rule}
    (h : Executes setting (.repetition rule operand 0) st cx matched after cx') :
    matched = true := by
  generalize htask : Task.repetition rule operand 0 = task at h
  induction h with
  | repetition_ended => cases htask; rfl
  | repetition_next _ _ _ _ _ ih => cases htask; exact ih rfl
  | repetition_dropped | repetition_kept => rfl
  | _ => cases htask

/-- What a task does to the state in which it is begun. -/
structure Task.Contract (task : Task) (st : ParseState) (matched : Bool) (after : ParseState) :
    Prop where
  of_matched : matched = true → ∃ tokens, st.Extends tokens after
  of_failed : matched = false → after = task.origin st

namespace Task.Contract

variable {task : Task} {tokens : List Token}

theorem failed : task.Contract st false (task.origin st) := ⟨fun h => (nomatch h), fun _ => rfl⟩

theorem extended (h : st.Extends tokens after) : task.Contract st true after :=
  ⟨fun _ => ⟨tokens, h⟩, fun h => (nomatch h)⟩

/-- A task that goes on after `mid` has been matched does what both have done. -/
theorem after_match {mid : ParseState} {task' : Task} (h : st.Extends tokens mid)
    (h' : task'.Contract mid matched after)
    (horigin : matched = false → task'.origin mid = task.origin st) :
    task.Contract st matched after where
  of_matched hmatched := by
    obtain ⟨more, hmore⟩ := h'.of_matched hmatched
    exact ⟨_, h.trans hmore⟩
  of_failed hfailed := (h'.of_failed hfailed).trans (horigin hfailed)

end Task.Contract

/-- What was replayed is a match or a failure like any other. -/
theorem Replays.contract {entry : MemoEntry} {task : Task} (h : Replays st entry matched after)
    (hentry : entry.Laid st.input st.position) (horigin : task.origin st = st) :
    task.Contract st matched after := by
  cases h with
  | failed =>
    exact ⟨fun h => (nomatch h), fun _ => horigin.symm⟩
  | matched hseek => exact .extended (ParseState.extends_pushAll hseek hentry.2)

/-- The outcome of a task that keeps the contract is laid where it began. -/
theorem Task.Contract.outcome_laid {task : Task} (h : task.Contract st matched after) :
    (Apply.outcome st.emitted.size matched after).Laid st.input st.position := by
  cases matched with
  | false => trivial
  | true =>
    obtain ⟨tokens, hext⟩ := h.of_matched rfl
    show Text.isBoundary after.position st.input = true ∧
      Token.Ordered st.input st.position (after.emitted.since st.emitted.size) after.position
    rw [hext.since_eq, ← hext.input_eq]
    exact ⟨after.isBoundary_position, hext.input_eq ▸ hext.ordered⟩

/-- A node moves to where its operand stopped and emits one token over it. -/
theorem extends_node {inner moved : ParseState} {tokens : List Token} {token : Token}
    {name : String} (hinner : st.scope.Extends tokens inner)
    (htoken : Token.make name st.input ⟨st.position, inner.position⟩ inner.emitted.toList =
      .ok token)
    (hseek : st.seek inner.position = .ok moved) : st.Extends [token] (moved.push token) := by
  have hlog : inner.emitted.toList = tokens := hinner.toList_eq rfl
  have hinput : inner.input = st.input := hinner.input_eq
  have hordered : Token.Ordered st.input st.position tokens inner.position := hinner.ordered
  have hstop : Text.isBoundary inner.position st.input = true :=
    hinput ▸ inner.isBoundary_position
  obtain ⟨hmake, hsound⟩ := hordered.make_eq_ok name st.isBoundary_position hstop
  rw [hlog, hmake] at htoken
  cases htoken
  obtain ⟨hmoved, hpos, hemitted⟩ := ParseState.seek_eq_ok hseek
  refine ⟨hmoved, ?_, Nat.le_refl _, hsound, ?_⟩
  · show moved.emitted.push _ = _
    rw [hemitted]
    rfl
  · show inner.position ≤ moved.position
    exact Nat.le_of_eq hpos.symm

/-- **The contract of rules.** Failure restores the state and success extends it,
whatever was met on the way: a limit, a lookahead, a remembered outcome. -/
theorem Executes.contract {task : Task} (h : Executes setting task st cx matched after cx')
    (hposed : task.WellPosed) (hmemo : cx.MemoLaid st.input) :
    cx'.MemoLaid st.input ∧ task.Contract st matched after := by
  -- the contract of operands is what keeps the table laid, so both go together
  induction h with
  | refused henter => exact ⟨hmemo.refused henter, .failed⟩
  | recalled henter hentry hreplay =>
    have hmemo₁ := hmemo.entered henter
    exact ⟨hmemo₁, hreplay.contract (hmemo₁.remembered hentry) rfl⟩
  | evaluated henter _ _ ih =>
    obtain ⟨hmemo₂, hbody⟩ := ih trivial (hmemo.entered henter)
    exact ⟨hmemo₂.leave hbody.outcome_laid, ⟨hbody.of_matched, hbody.of_failed⟩⟩
  | read _ _ hadvance =>
    exact ⟨hmemo, .extended (.of_seek hadvance (Nat.le_add_right _ _))⟩
  | unread _ _ hmiss => exact ⟨hmemo.of_memo_eq (Context.memo_miss hmiss), .failed⟩
  | seq _ ih | choice _ ih =>
    obtain ⟨hmemo', hrest⟩ := ih trivial hmemo
    exact ⟨hmemo', ⟨hrest.of_matched, hrest.of_failed⟩⟩
  | notAhead_failed _ hmiss ih | ahead_failed _ hmiss ih =>
    have hmemo₁ := (ih trivial hmemo).1.lookahead
    exact ⟨(hmemo₁ _ _).of_memo_eq (Context.memo_miss hmiss), .failed⟩
  | notAhead_matched _ ih | ahead_matched _ ih =>
    exact ⟨(ih trivial hmemo).1.lookahead _ _, .extended (.refl _)⟩
  | zeroOrMore hrepeat ih =>
    obtain ⟨hmemo', hrest⟩ := ih (Nat.zero_le 1) hmemo
    obtain ⟨tokens, hext⟩ := hrest.of_matched hrepeat.repetition_zero
    exact ⟨hmemo', .extended hext⟩
  | oneOrMore _ ih =>
    obtain ⟨hmemo', hrest⟩ := ih (Nat.le_refl 1) hmemo
    exact ⟨hmemo', ⟨hrest.of_matched, hrest.of_failed⟩⟩
  | opt_taken _ _ ih =>
    obtain ⟨hmemo', hoperand⟩ := ih trivial hmemo
    exact ⟨hmemo', ⟨hoperand.of_matched, hoperand.of_failed⟩⟩
  | opt_left _ ih => exact ⟨(ih trivial hmemo).1, .extended (.refl _)⟩
  | node_failed _ ih => exact ⟨(ih trivial hmemo).1, .failed⟩
  | node_matched _ _ htoken hseek ih =>
    obtain ⟨hmemo', hoperand⟩ := ih trivial hmemo
    obtain ⟨tokens, hext⟩ := hoperand.of_matched rfl
    exact ⟨hmemo', .extended (extends_node hext htoken hseek)⟩
  | recursive _ _ ih =>
    obtain ⟨hmemo', htarget⟩ := ih trivial hmemo
    exact ⟨hmemo', ⟨htarget.of_matched, htarget.of_failed⟩⟩
  | sequence_nil => exact ⟨hmemo, .extended (.refl _)⟩
  | sequence_failed _ ih => exact ⟨(ih trivial hmemo).1.rewound _ _, .failed⟩
  | sequence_next _ _ ih ih' =>
    obtain ⟨hmemo₁, hhead⟩ := ih trivial hmemo
    obtain ⟨tokens, hext⟩ := hhead.of_matched rfl
    obtain ⟨hmemo', hrest⟩ := ih' trivial (hext.input_eq ▸ hmemo₁)
    exact ⟨hext.input_eq ▸ hmemo', .after_match hext hrest fun _ => rfl⟩
  | alternatives_nil => exact ⟨hmemo, .failed⟩
  | alternatives_first _ _ ih =>
    obtain ⟨hmemo', hhead⟩ := ih trivial hmemo
    exact ⟨hmemo', ⟨hhead.of_matched, hhead.of_failed⟩⟩
  | alternatives_aborted _ _ ih => exact ⟨(ih trivial hmemo).1, .failed⟩
  | alternatives_next _ _ _ ih ih' =>
    obtain ⟨hmemo', hrest⟩ := ih' trivial (ih trivial hmemo).1
    exact ⟨hmemo', ⟨hrest.of_matched, hrest.of_failed⟩⟩
  | @repetition_ended _ _ required _ _ _ _ _ ih =>
    exact ⟨(ih trivial hmemo).1, fun _ => ⟨[], .refl _⟩, fun _ => rfl⟩
  | @repetition_next rule operand required _ _ _ _ _ _ _ _ _ _ hrepeat ih ih' =>
    obtain ⟨hmemo₁, hoperand⟩ := ih trivial hmemo
    obtain ⟨tokens, hext⟩ := hoperand.of_matched rfl
    have hnone : required - 1 = 0 := Nat.sub_eq_zero_of_le hposed
    obtain ⟨hmemo', hrest⟩ := ih' (hnone ▸ Nat.zero_le 1) (hext.input_eq ▸ hmemo₁)
    refine ⟨hext.input_eq ▸ hmemo', .after_match hext hrest fun hfailed => ?_⟩
    -- one match has been made, so none is missing any more
    rw [hnone] at hrepeat
    rw [hrepeat.repetition_zero] at hfailed
    cases hfailed
  | repetition_dropped _ _ ih =>
    exact ⟨(ih trivial hmemo).1, .extended (.refl _)⟩
  | repetition_kept _ _ _ ih =>
    obtain ⟨hmemo', hoperand⟩ := ih trivial hmemo
    obtain ⟨tokens, hext⟩ := hoperand.of_matched rfl
    exact ⟨hmemo', .extended hext⟩

end Packrat
