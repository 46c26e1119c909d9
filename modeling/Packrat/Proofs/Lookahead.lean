import Packrat.Proofs.Recursion
import Packrat.Proofs.Refactoring

/-!
# Lookahead is isolated

A lookahead works on the context of the parse it belongs to. What keeps it apart is the
number of open lookaheads: while one is open, no outcome is remembered or recalled, and no
expectation counts.

- `Rule.LooksFor`: the lookaheads, with what they look for.
- `Context.Secluded cx cx'`: from `cx` to `cx'` the table and the record of expectations
  stay as they are, and no outcome is recalled.
- `Executes.secluded`, `Calls.secluded`: inside a lookahead, all that is done is secluded.
- `Context.RemembersAtMost`: the table has the outcome of one application besides, or not.
- `apply_lookahead`: what an application of a lookahead does, and what it leaves alone.
-/

namespace Packrat

open Context

variable {setting : Setting} {scope : Scope} {limits : Limits} {task : Task}
  {root rule operand rule' : Rule} {input : String} {stalls : Prop} {pos : Nat} {wanted : Bool}
  {st st' after : ParseState} {cx cx₁ cx₂ cx' : Context} {matched : Bool} {outcome : Outcome}
  {wants : List Want}

/-- The rule looks ahead for `operand`: that it matches if `wanted`, or that it fails. -/
inductive Rule.LooksFor : Rule → Bool → Rule → Prop where
  | ahead {id : RuleId} {operand : Rule} : LooksFor (.ahead id operand) true operand
  | notAhead {id : RuleId} {operand : Rule} : LooksFor (.notAhead id operand) false operand

/-- Whether the event says that an outcome was recalled. -/
def Event.isRecall : Event → Bool
  | .memoHit .. => true
  | _ => false

/-! ## Seclusion -/

namespace Context

/-- `cx'` remembers and expects what `cx` does, and no outcome was recalled between them. -/
structure Secluded (cx cx' : Context) : Prop where
  memo_eq : cx'.memo = cx.memo
  failure_eq : cx'.failure = cx.failure
  trace_eq : ∃ events, cx'.trace = cx.trace ++ events ∧ ∀ event ∈ events, event.isRecall = false

/-- Inside a lookahead nothing is remembered. -/
theorem memoizes_eq_false (hquiet : cx.quiet ≠ 0) : cx.memoizes scope rule = false := by
  rw [memoizes, beq_false_of_ne hquiet, Bool.and_false]

/-- Inside a lookahead nothing is recalled. -/
theorem remembered?_eq_none_of_quiet (hquiet : cx.quiet ≠ 0) :
    cx.remembered? scope rule pos = none := by
  rw [remembered?, memoizes_eq_false hquiet]
  rfl

theorem quiet_enter (henter : cx.enter limits rule pos = (true, cx₁)) : cx₁.quiet = cx.quiet := by
  obtain ⟨-, -, rfl⟩ := enter_eq_true_iff.1 henter
  rfl

namespace Secluded

theorem refl (cx : Context) : Secluded cx cx := ⟨rfl, rfl, [], (List.append_nil _).symm, by simp⟩

theorem trans (h : Secluded cx cx₁) (h' : Secluded cx₁ cx') : Secluded cx cx' := by
  obtain ⟨events, htrace, hevents⟩ := h.trace_eq
  obtain ⟨events', htrace', hevents'⟩ := h'.trace_eq
  refine ⟨h'.memo_eq.trans h.memo_eq, h'.failure_eq.trans h.failure_eq, events ++ events', ?_, ?_⟩
  · rw [htrace', htrace, List.append_assoc]
  · intro event hmem
    exact (List.mem_append.1 hmem).elim (hevents event) (hevents' event)

theorem record (cx : Context) (event : Event) (hevent : event.isRecall = false) :
    Secluded cx (cx.record event) := by
  refine ⟨rfl, rfl, [event], trace_record .., ?_⟩
  intro event' hmem
  rwa [List.mem_singleton.1 hmem]

theorem rewound (source target : Nat) (cx : Context) :
    Secluded cx (cx.rewound source target) := by
  rcases rewound_eq source target cx with h | h
  · rw [h]
    exact refl cx
  · rw [h]
    exact record cx _ rfl

theorem refused (henter : cx.enter limits rule pos = (false, cx')) : Secluded cx cx' := by
  rcases enter_eq_false_iff.1 henter with ⟨-, -, rfl⟩ | ⟨-, -, -, rfl⟩
  · exact refl _
  · exact ⟨rfl, rfl, [], (List.append_nil _).symm, by simp⟩

theorem entered (henter : cx.enter limits rule pos = (true, cx₁)) : Secluded cx cx₁ := by
  refine ⟨?_, ?_, _, trace_enter henter, by simp [Event.isRecall]⟩
  all_goals
    obtain ⟨-, -, rfl⟩ := enter_eq_true_iff.1 henter
    rfl

theorem opened (cx : Context) : Secluded cx cx.openLookahead :=
  ⟨rfl, rfl, [], (List.append_nil _).symm, by simp⟩

/-- What is secluded inside a lookahead is so outside it. -/
theorem lookahead (h : Secluded cx.openLookahead cx₁) (source target : Nat) :
    Secluded cx (cx₁.closeLookahead.rewound source target) := by
  have hclosed : Secluded cx cx₁.closeLookahead := ⟨h.memo_eq, h.failure_eq, h.trace_eq⟩
  exact hclosed.trans (rewound source target _)

/-- Inside a lookahead a failure does not count. -/
theorem miss (hquiet : cx.quiet ≠ 0) (hmiss : cx.miss scope rule pos = some cx') :
    Secluded cx cx' := by
  refine ⟨memo_miss hmiss, by rw [failure_miss hmiss, if_neg hquiet], ?_⟩
  obtain ⟨events, hevents, rfl⟩ := miss_eq_some hmiss
  refine ⟨events.reverse, ?_, ?_⟩
  · rw [expect_eq]
    exact List.reverse_append
  · intro event hmem
    obtain ⟨id, target, rfl⟩ := hevents event (List.mem_reverse.1 hmem)
    rfl

/-- Inside a lookahead an outcome is not remembered. -/
theorem leave (hquiet : cx.quiet ≠ 0) : Secluded cx (cx.leave scope rule st matched after) := by
  refine ⟨?_, failure_leave, _, trace_leave, by simp [Event.isRecall]⟩
  rw [memo_leave, memoizes_eq_false hquiet]
  rfl

end Secluded

end Context

/-- **Inside a lookahead, executions are secluded.** -/
theorem Executes.secluded (h : Executes setting task st cx matched after cx')
    (hquiet : cx.quiet ≠ 0) : cx.Secluded cx' := by
  -- the number of open lookaheads is the same before and after each part, which the
  -- frame says, so that every part is executed inside the lookahead
  induction h with
  | refused henter => exact .refused henter
  | recalled henter hentry =>
    rw [← quiet_enter henter] at hquiet
    rw [remembered?_eq_none_of_quiet hquiet] at hentry
    cases hentry
  | evaluated henter _ hbody ih =>
    rw [← quiet_enter henter] at hquiet
    have hleft := (Secluded.entered henter).trans (ih hquiet)
    rw [← hbody.frame.quiet_eq] at hquiet
    exact hleft.trans (.leave hquiet)
  | read | sequence_nil | alternatives_nil => exact .refl _
  | unread _ _ hmiss => exact .miss hquiet hmiss
  | seq _ ih | choice _ ih | zeroOrMore _ ih | oneOrMore _ ih | opt_taken _ _ ih
  | opt_left _ ih | node_failed _ ih | alternatives_first _ _ ih
  | alternatives_aborted _ _ ih | repetition_ended _ ih => exact ih hquiet
  | notAhead_failed hprobe hmiss ih | ahead_failed hprobe hmiss ih =>
    refine ((ih (Nat.succ_ne_zero _)).lookahead _ _).trans (.miss ?_ hmiss)
    rwa [(hprobe.frame.lookahead _ _).quiet_eq]
  | notAhead_matched _ ih | ahead_matched _ ih => exact (ih (Nat.succ_ne_zero _)).lookahead _ _
  | node_matched _ _ _ _ ih | repetition_dropped _ _ ih | repetition_kept _ _ _ ih =>
    exact (ih hquiet).trans (.record _ _ rfl)
  | recursive _ _ ih => exact (Secluded.record _ _ rfl).trans (ih hquiet)
  | sequence_failed _ ih => exact (ih hquiet).trans (.rewound ..)
  | sequence_next hhead _ ih ih' | alternatives_next hhead _ _ ih ih'
  | repetition_next hhead _ _ _ ih ih' =>
    have hnext := ih' (hhead.frame.quiet_eq ▸ hquiet)
    exact (ih hquiet).trans hnext

/-- **Inside a lookahead, rules are applied in seclusion.** -/
theorem Calls.secluded (h : Calls setting task st cx rule' st' cx') (hquiet : cx.quiet ≠ 0) :
    cx.Secluded cx' ∧ cx'.quiet ≠ 0 := by
  induction h with
  | self => exact ⟨.refl _, hquiet⟩
  | evaluated henter _ _ ih =>
    rw [← quiet_enter henter] at hquiet
    obtain ⟨hsecluded, hopen⟩ := ih hquiet
    exact ⟨(Secluded.entered henter).trans hsecluded, hopen⟩
  | seq _ ih | choice _ ih | zeroOrMore _ ih | oneOrMore _ ih | opt _ ih | node _ ih
  | sequence_first _ ih | alternatives_first _ ih | repetition_first _ ih => exact ih hquiet
  | notAhead _ ih | ahead _ ih =>
    obtain ⟨hsecluded, hopen⟩ := ih (Nat.succ_ne_zero _)
    exact ⟨(Secluded.opened _).trans hsecluded, hopen⟩
  | recursive _ _ ih =>
    obtain ⟨hsecluded, hopen⟩ := ih hquiet
    exact ⟨(Secluded.record _ _ rfl).trans hsecluded, hopen⟩
  | sequence_next hhead _ ih | alternatives_next hhead _ _ ih | repetition_next hhead _ _ ih =>
    obtain ⟨hsecluded, hopen⟩ := ih (hhead.frame.quiet_eq ▸ hquiet)
    exact ⟨(hhead.secluded hquiet).trans hsecluded, hopen⟩

/-! ## Lookaheads -/

namespace Rule.LooksFor

/-- What a lookahead comes to apply, it applies inside itself. -/
theorem calls (hlooks : rule.LooksFor wanted operand)
    (h : Calls setting (.body rule) st cx rule' st' cx') : cx.Secluded cx' ∧ cx'.quiet ≠ 0 := by
  have hprobe : Calls setting (.application operand) st cx.openLookahead rule' st' cx' := by
    cases hlooks with
    | ahead =>
      cases h with
      | ahead hprobe => exact hprobe
    | notAhead =>
      cases h with
      | notAhead hprobe => exact hprobe
  obtain ⟨hsecluded, hopen⟩ := hprobe.secluded (Nat.succ_ne_zero _)
  exact ⟨(Secluded.opened _).trans hsecluded, hopen⟩

/-- A lookahead moves nothing and emits nothing, and it leaves the table as it is until its
own outcome is remembered. -/
theorem leaves (hlooks : rule.LooksFor wanted operand)
    (h : Executes setting (.body rule) st cx matched after cx') :
    after = st ∧ cx'.memo = cx.memo := by
  have hprobe : ∀ {found probe cx₁},
      Executes setting (.application operand) st cx.openLookahead found probe cx₁ →
        (cx₁.closeLookahead.rewound probe.position st.position).memo = cx.memo :=
    fun h => ((h.secluded (Nat.succ_ne_zero _)).lookahead _ _).memo_eq
  cases hlooks with
  | ahead =>
    cases h with
    | read hprimitive | unread hprimitive => cases hprimitive
    | ahead_failed hinner hmiss => exact ⟨rfl, (memo_miss hmiss).trans (hprobe hinner)⟩
    | ahead_matched hinner => exact ⟨rfl, hprobe hinner⟩
  | notAhead =>
    cases h with
    | read hprimitive | unread hprimitive => cases hprimitive
    | notAhead_failed hinner hmiss => exact ⟨rfl, (memo_miss hmiss).trans (hprobe hinner)⟩
    | notAhead_matched hinner => exact ⟨rfl, hprobe hinner⟩

/-- A lookahead matches where its operand does what it looks for, wanting nothing. Where it
fails it wants itself, whatever its operand wanted. -/
theorem evaluates (hlooks : rule.LooksFor wanted operand)
    (h : Evaluates scope input stalls rule pos outcome wants) :
    ∃ found inner, Evaluates scope input stalls operand pos found inner ∧
      outcome = (if found.isSome = wanted then some (pos, []) else none) ∧
        wants = if found.isSome = wanted then [] else [(pos, rule.describe scope)] := by
  cases hlooks with
  | ahead =>
    cases h with
    | read hprimitive | unread hprimitive => cases hprimitive
    | ahead_failed hoperand => exact ⟨_, _, hoperand, rfl, rfl⟩
    | ahead_matched hoperand => exact ⟨_, _, hoperand, rfl, rfl⟩
  | notAhead =>
    cases h with
    | read hprimitive | unread hprimitive => cases hprimitive
    | notAhead_failed hoperand => exact ⟨_, _, hoperand, rfl, rfl⟩
    | notAhead_matched hoperand => exact ⟨_, _, hoperand, rfl, rfl⟩

/-- Where a lookahead comes out as it evaluates, it matches just if its operand does what it
looks for. -/
theorem realized (hlooks : rule.LooksFor wanted operand)
    (heval : Evaluates scope st.input stalls rule st.position outcome wants)
    (hreal : outcome.Realized st matched after) :
    ∃ found inner, Evaluates scope st.input stalls operand st.position found inner ∧
      matched = (found.isSome == wanted) ∧ (matched = true → after = st) ∧
        wants = if matched = true then [] else [(st.position, rule.describe scope)] := by
  obtain ⟨found, inner, hfound, rfl, rfl⟩ := hlooks.evaluates heval
  refine ⟨found, inner, hfound, ?_⟩
  by_cases hwanted : found.isSome = wanted
  · rw [if_pos hwanted] at hreal
    obtain ⟨rfl, hstop, hext⟩ := hreal.of_some
    exact ⟨(beq_iff_eq.2 hwanted).symm, fun _ => hext.unique (.refl st) hstop, if_pos hwanted⟩
  · rw [if_neg hwanted] at hreal
    cases hreal
    exact ⟨(beq_false_of_ne hwanted).symm, fun h => (nomatch h), if_neg hwanted⟩

end Rule.LooksFor

/-! ## Applications -/

/-- `cx'` remembers what `cx` does, and besides it the outcome of `rule` at `pos` at most,
if outcomes of the rule are remembered at all. -/
def Context.RemembersAtMost (scope : Scope) (rule : Rule) (pos : Nat) (cx cx' : Context) : Prop :=
  cx'.memo = cx.memo ∨ cx.memoizes scope rule = true ∧
    ∃ entry, cx'.memo = cx.memo.map (·.insert (rule.id, pos) entry)

/-- An application of a lookahead moves nothing and emits nothing, and it remembers no
outcome but its own. -/
theorem Executes.lookahead (h : Executes setting (.application rule) st cx matched after cx')
    (hlooks : rule.LooksFor wanted operand) (hidentifies : setting.scope.Identifies root)
    (hbelow : root.Reaches setting.scope rule) (hreachable : cx.Reachable setting root st.input) :
    after = st ∧ cx.RemembersAtMost setting.scope rule st.position cx' := by
  have hcontract := (h.contract trivial hreachable.memoLaid).2
  cases h with
  | refused henter => exact ⟨rfl, .inl (Secluded.refused henter).memo_eq⟩
  | @recalled _ _ _ _ cx₁ _ _ henter hentry hreplay =>
    have hreachable₁ := hreachable.entered henter
    obtain ⟨outcome, wants, heval, rfl, -⟩ :=
      (hreachable₁.sound hidentifies).remembered hidentifies hbelow hentry
    have hreal := Outcome.Realized.of_replays hreplay (hreachable₁.memoLaid.remembered hentry)
    obtain ⟨-, -, -, -, hmatched, -⟩ := hlooks.realized heval hreal
    refine ⟨?_, .inl ?_⟩
    · cases matched with
      | true => exact hmatched rfl
      | false => exact hcontract.of_failed rfl
    · show cx₁.memo = cx.memo
      exact (Secluded.entered henter).memo_eq
  | @evaluated _ _ _ _ cx₁ cx₂ _ henter _ hbody =>
    obtain ⟨hstill, hleft⟩ := hlooks.leaves hbody
    refine ⟨hstill, ?_⟩
    have hmemo : cx₂.memo = cx.memo := hleft.trans (Secluded.entered henter).memo_eq
    have hquiet : cx₂.quiet = cx.quiet := hbody.frame.quiet_eq.trans (quiet_enter henter)
    have hmemoizes : cx₂.memoizes setting.scope rule = cx.memoizes setting.scope rule := by
      rw [memoizes, memoizes, hquiet]
    show _ ∨ _
    rw [memo_leave, hmemo, hmemoizes]
    split
    · rename_i hremembers
      exact .inr ⟨(Bool.and_eq_true_iff.1 hremembers).1, _, rfl⟩
    · exact .inl rfl

/-- **Lookahead is isolated.** An application of a lookahead leaves the state as it is. No
rule that is applied inside it finds its outcome remembered, or has it remembered. Inside
another lookahead the record of expectations stays as it is. If the parse is not abandoned,
the lookahead matches just if its operand does what it looks for, as this comes out wherever
it is applied to the input at the offset. The record stays as it is if the lookahead matches;
if it fails, outside other lookaheads, its own description is noted at its own offset. -/
theorem apply_lookahead {room : Nat} (hlooks : rule.LooksFor wanted operand)
    (happlicable : Applicable setting root room rule st cx) :
    ∃ matched cx', apply setting room rule st cx = .ok (matched, st) cx' ∧
      cx.RemembersAtMost setting.scope rule st.position cx' ∧
      (∀ cx₁ rule' st' cx₂, cx.enter setting.limits rule st.position = (true, cx₁) →
        Calls setting (.body rule) st cx₁ rule' st' cx₂ →
          cx₂.memo = cx.memo ∧ cx₂.remembered? setting.scope rule' st'.position = none ∧
            ∀ matched' after' cx₃,
              Executes setting (.application rule') st' cx₂ matched' after' cx₃ →
                cx₃.memo = cx.memo) ∧
      (cx.quiet ≠ 0 → cx'.failure = cx.failure) ∧
      (cx'.fatal = none →
        cx'.failure = (if matched = true ∨ cx.quiet ≠ 0 then cx.failure
          else cx.failure.note (st.position, rule.describe setting.scope)) ∧
        (∃ found wants, Evaluates setting.scope st.input True operand st.position found wants ∧
          matched = (found.isSome == wanted)) ∧
        ∀ (setting' : Setting) (root' : Rule) (room' : Nat) (st' : ParseState) (cx₁ : Context),
          setting'.scope = setting.scope → st'.input = st.input → st'.position = st.position →
          Applicable setting' root' room' operand st' cx₁ →
            ∃ found after' cx₁', apply setting' room' operand st' cx₁ =
                .ok (found, after') cx₁' ∧
              (cx₁'.fatal = none → matched = (found == wanted))) := by
  obtain ⟨hresolves, hidentifies, hbelow, hreachable, hroom⟩ := happlicable
  obtain ⟨matched, after, cx', happly, hexec⟩ :=
    exists_apply_eq_ok hresolves hbelow hreachable.memoLaid hroom
  obtain ⟨rfl, hmemo⟩ := hexec.lookahead hlooks hidentifies hbelow hreachable
  refine ⟨matched, cx', happly, hmemo, ?_, ?_, ?_⟩
  · intro cx₁ rule' st' cx₂ henter hcall
    obtain ⟨hsecluded, hopen⟩ := hlooks.calls hcall
    have hmemo₂ := ((Secluded.entered henter).trans hsecluded).memo_eq
    refine ⟨hmemo₂, remembered?_eq_none_of_quiet hopen, ?_⟩
    intro matched' after' cx₃ hinner
    exact (hinner.secluded hopen).memo_eq.trans hmemo₂
  · intro hquiet
    exact (hexec.secluded hquiet).failure_eq
  · intro hfatal
    have hsound := (hreachable.sound hidentifies).mono fun _ => True.intro
    obtain ⟨outcome, wants, heval, hreal, hfailure⟩ := (hexec.adequate hidentifies hbelow trivial
      hreachable.memoLaid hsound fun _ => True.intro).2 hfatal
    obtain ⟨found, inner, hfound, hmatched, -, rfl⟩ := hlooks.realized (heval 0) hreal
    refine ⟨?_, ⟨found, inner, hfound, hmatched⟩, ?_⟩
    · rw [hfailure, noted]
      by_cases hquiet : cx.quiet = 0
      · cases matched <;> simp [hquiet]
      · simp [hquiet]
    · intro setting' root' room' st' cx₁ hscope hinput hpos happlicable'
      obtain ⟨hresolves', hidentifies', hbelow', hreachable', hroom'⟩ := happlicable'
      obtain ⟨found', after', cx₁', happly', hexec'⟩ :=
        exists_apply_eq_ok hresolves' hbelow' hreachable'.memoLaid hroom'
      refine ⟨found', after', cx₁', happly', fun hfatal' => ?_⟩
      obtain ⟨outcome', wants', heval', hreal'⟩ :=
        hexec'.evaluates hidentifies' hbelow' rfl (hreachable'.trusted hidentifies') hfatal'
      rw [hscope, hinput, hpos] at heval'
      obtain ⟨rfl, -⟩ := hfound.det heval'
      rw [hmatched]
      cases hreal' <;> rfl

/-! ## No text ahead -/

namespace Quotation

/-- No text stands ahead. -/
def noText : Rule := .notAhead 10 text

theorem closes_noText : Quotation.scope.Closes (noText :: rules) where
  operand_mem := by simp [noText, rules, text, quoted, dotted, letter, Rule.operands]
  target_mem := by
    intro id key target hmem htarget
    rcases List.mem_cons.1 hmem with hroot | hmem
    · cases hroot
    · exact List.mem_cons_of_mem _ (closes.target_mem id key target hmem htarget)

theorem resolves_noText : Quotation.scope.Resolves noText :=
  closes_noText.resolves List.mem_cons_self
    (by simp [noText, rules, text, quoted, dotted, letter, Quotation.scope])

theorem identifies_noText : Quotation.scope.Identifies noText :=
  closes_noText.identifies List.mem_cons_self (by decide)

/-- What comes out of an application of the rule, if it is not abandoned. -/
def comesOut (rule : Rule) (memoize : Bool) (input : String) : Option Bool :=
  match apply ⟨Quotation.scope, .standard⟩ 1024 rule (.start input) (.start memoize) with
  | .ok (matched, _) cx => if cx.fatal.isNone then some matched else none
  | .error .. => none

end Quotation

open Quotation in
/-- A quotation is a text, as it is without the lookahead. That a text was not wanted is all
that is recorded, and of the text nothing is remembered, although it has a name. -/
theorem apply_lookahead_noText :
    ∃ cx', apply ⟨Quotation.scope, .standard⟩ 1024 noText (.start "«é»") (.start true) =
        .ok (false, .start "«é»") cx' ∧
      cx'.failure = ⟨0, ["!Text"]⟩ ∧ cx'.memo = some ∅ ∧
        ∃ after' cx₁', apply ⟨Quotation.scope, .standard⟩ 1024 text (.start "«é»") (.start false) =
          .ok (true, after') cx₁' := by
  have hfails : comesOut noText true "«é»" = some false := by decide +kernel
  have hmatches : comesOut text false "«é»" = some true := by decide +kernel
  have hlooks : noText.LooksFor false text := .notAhead
  obtain ⟨matched, cx', happly, hmemo, -, -, hends⟩ :=
    apply_lookahead hlooks (.start resolves_noText identifies_noText true "«é»")
  rw [comesOut, happly] at hfails
  obtain ⟨hgoesOn, hfailed⟩ := Option.ite_none_right_eq_some.1 hfails
  obtain rfl : matched = false := Option.some.inj hfailed
  obtain ⟨hfailure, -, hsame⟩ := hends (Option.isNone_iff_eq_none.1 hgoesOn)
  obtain ⟨found, after', cx₁', happly', -⟩ := hsame ⟨Quotation.scope, .standard⟩ text 1024
    (.start "«é»") (.start false) rfl rfl rfl (.start resolves identifies false "«é»")
  rw [comesOut, happly'] at hmatches
  obtain ⟨-, hmatched⟩ := Option.ite_none_right_eq_some.1 hmatches
  obtain rfl : found = true := Option.some.inj hmatched
  refine ⟨cx', happly, hfailure, ?_, after', cx₁', happly'⟩
  rcases hmemo with hmemo | ⟨hmemoizes, -⟩
  · exact hmemo
  · cases hmemoizes

end Packrat
