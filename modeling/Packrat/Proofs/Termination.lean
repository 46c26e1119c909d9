import Packrat.Proofs.Verdict

/-!
# Every parse terminates

`apply` is defined by recursion on the applications that may still be opened, and
a repetition by recursion on the input that remains. Neither is in the text of the
engine: there an application calls others as it likes, and a repetition goes on
unless a match ended where it began. This module takes the engine at its text. It
calls itself at finitely many places, and these calls are nested finitely deep.

- `Machine`: what the engine calls itself for. `Machine.unfold` is its text.
- `Machine.within beyond n`: the engine, with calls nested up to `n` deep and
  anything at all in the place of those beyond.
- `Task.nesting`: how deep calls are nested at most.
- `Executes.performs`: so deep, the engine does what it does, and nothing beyond
  is called.
- `Parser.run_terminates`: every run ends, in that depth.
-/

namespace Packrat

open Apply Run

/-- What the engine calls itself for: to apply a rule, and to go on with a repetition. -/
structure Machine where
  apply : Matcher
  /-- Goes on with the repetition `rule` of `operand`, with `required` matches missing. -/
  goOn (rule operand : Rule) (required : Nat) (st : ParseState) : Run (Bool × ParseState)

namespace Machine

variable (setting : Setting) (next : Machine)

/-- What a rule is made of. -/
def body (rule : Rule) (st : ParseState) : Run (Bool × ParseState) :=
  match rule with
  | .zeroOrMore _ operand => do return (true, (← next.goOn rule operand 0 st).2)
  | .oneOrMore _ operand => next.goOn rule operand 1 st
  | _ => applyBody setting next.apply rule st

/-- An application, with no count of those that may still be opened. -/
def attempt (rule : Rule) (st : ParseState) : Run (Bool × ParseState) := do
  if ← modifyGet (·.enter setting.limits rule st.position) then
    let (matched, after) ← applyOnce setting (next.body setting rule st) rule st
    modify (·.exit rule st.position (if matched then some after.position else none))
    return (matched, after)
  else return (false, st)

/-- An iteration of a repetition. Only a match that ends where it began stops it. -/
def iterate (rule operand : Rule) (required : Nat) (st : ParseState) :
    Run (Bool × ParseState) := do
  let (matched, attempt) ← next.apply operand st
  if !matched then return (required == 0, st)
  if attempt.position == st.position then
    let st ← if required == 0 then pure st else check (st.assign attempt)
    record (.stalled rule st.position)
    return (true, st)
  else
    next.goOn rule operand (required - 1) (← check (st.assign attempt))

/-- The text of the engine, with `next` for the engine that it calls. -/
def unfold : Machine := ⟨next.attempt setting, next.iterate⟩

/-- The engine with calls nested up to `n` deep, and `beyond` in the place of what
would be called beyond. -/
def within (beyond : Machine) : Nat → Machine
  | 0 => beyond
  | n + 1 => (within beyond n).unfold setting

/-- How the engine performs a task. -/
def perform (machine : Machine) (st : ParseState) : Task → Run (Bool × ParseState)
  | .application rule => machine.apply rule st
  | .body rule => machine.body setting rule st
  | .sequence origin rules => applySeq machine.apply origin rules st
  | .alternatives rules => applyChoice machine.apply st rules
  | .repetition rule operand required => machine.goOn rule operand required st

end Machine

/-- How deep calls of a task are nested at most, where `room` applications may be
opened inside it. Between an application and the next one that it opens there may
be one iteration for each byte, and one that reads nothing. -/
def Task.nesting (room : Nat) (input : String) (st : ParseState) : Task → Nat
  | .application _ | .sequence .. | .alternatives _ => room * (input.utf8ByteSize + 2) + 1
  | .body _ => room * (input.utf8ByteSize + 2) + input.utf8ByteSize + 2
  | .repetition .. => room * (input.utf8ByteSize + 2) + Text.utf8Length st.remainder + 2

variable {setting : Setting} {task : Task} {rule operand : Rule} {st after : ParseState}
  {cx cx₁ cx₂ cx' : Context} {matched : Bool} {machine : Machine} {input : String}

/-! ## Steps -/

theorem check_assign_eq_ok {attempt : ParseState} (h : st.input = attempt.input) :
    check (st.assign attempt) cx = .ok attempt cx :=
  check_eq_ok_iff.2 ⟨ParseState.assign_eq_ok_iff.2 ⟨h, rfl⟩, rfl⟩

namespace Machine

theorem attempt_of_refused (henter : cx.enter setting.limits rule st.position = (false, cx')) :
    machine.attempt setting rule st cx = .ok (false, st) cx' := by
  simp only [attempt, bind_eq_ok_iff, modifyGet_eq_ok_iff]
  exact ⟨false, cx', henter, rfl⟩

theorem attempt_of_entered (henter : cx.enter setting.limits rule st.position = (true, cx₁))
    (honce : applyOnce setting (machine.body setting rule st) rule st cx₁ =
      .ok (matched, after) cx₂) :
    machine.attempt setting rule st cx = .ok (matched, after)
      (cx₂.exit rule st.position (if matched then some after.position else none)) := by
  simp only [attempt, bind_eq_ok_iff, modifyGet_eq_ok_iff]
  refine ⟨true, cx₁, henter, ?_⟩
  simp only [if_true, bind_eq_ok_iff, modify_eq_ok_iff, pure_eq_ok_iff, Prod.exists]
  exact ⟨matched, after, cx₂, honce, (), _, rfl, rfl, rfl⟩

section Iterate

variable {required : Nat} {attempt : ParseState}

theorem iterate_ended (h : machine.apply operand st cx = .ok (false, attempt) cx') :
    machine.iterate rule operand required st cx = .ok (required == 0, st) cx' := by
  rw [iterate, bind_eq_of_ok h]
  rfl

theorem iterate_next (h : machine.apply operand st cx = .ok (true, attempt) cx')
    (hinput : st.input = attempt.input) (hlt : st.position < attempt.position) :
    machine.iterate rule operand required st cx =
      machine.goOn rule operand (required - 1) attempt cx' := by
  have hmoved : ¬(attempt.position == st.position) = true := by
    rw [beq_iff_eq]
    exact Nat.ne_of_gt hlt
  rw [iterate, bind_eq_of_ok h]
  dsimp only
  rw [if_neg (by decide), if_neg hmoved, bind_eq_of_ok (check_assign_eq_ok hinput)]

theorem iterate_dropped (h : machine.apply operand st cx = .ok (true, attempt) cx')
    (hstop : attempt.position = st.position) :
    machine.iterate rule operand 0 st cx = .ok (true, st)
      (cx'.record (.stalled rule st.position)) := by
  rw [iterate, bind_eq_of_ok h]
  dsimp only
  rw [if_neg (by decide), if_pos (beq_iff_eq.2 hstop)]
  rfl

theorem iterate_kept {missing : Nat} (h : machine.apply operand st cx = .ok (true, attempt) cx')
    (hinput : st.input = attempt.input) (hstop : attempt.position = st.position) :
    machine.iterate rule operand (missing + 1) st cx = .ok (true, attempt)
      (cx'.record (.stalled rule attempt.position)) := by
  rw [iterate, bind_eq_of_ok h]
  dsimp only
  rw [if_neg (by decide), if_pos (beq_iff_eq.2 hstop), if_neg (by simp),
    bind_eq_of_ok (check_assign_eq_ok hinput)]
  rfl

end Iterate

end Machine

theorem lookahead_eq_ok {m : Matcher} {probe : ParseState}
    (h : m operand st cx.openLookahead = .ok (matched, probe) cx₁) :
    lookahead m operand st cx =
      .ok matched (cx₁.closeLookahead.rewound probe.position st.position) := by
  simp only [lookahead, bind_eq_ok_iff, modify_eq_ok_iff, Prod.exists]
  exact ⟨(), _, rfl, matched, probe, cx₁, h, (), _, rfl, rewind_eq_ok_iff.2 ⟨rfl, rfl⟩⟩

theorem Machine.body_of_isPrimitive (h : rule.isPrimitive = true) :
    machine.body setting rule st = applyBody setting machine.apply rule st := by
  cases rule with
  | zeroOrMore | oneOrMore => cases h
  | _ => rfl

namespace Task

variable {room n : Nat}

/-- Every task needs a call. -/
theorem exists_level (hn : task.nesting room input st ≤ n) : ∃ below, n = below + 1 := by
  have hpos : 0 < task.nesting room input st := by cases task <;> exact Nat.succ_pos _
  exact Nat.exists_eq_add_one_of_ne_zero (by omega)

/-- An operand is nested no deeper than what applies it. -/
theorem nesting_operand (hn : task.nesting room input st ≤ n) (rule : Rule) (st' : ParseState) :
    (Task.application rule).nesting room input st' ≤ n := by
  refine Nat.le_trans ?_ hn
  cases task <;> simp only [nesting] <;> omega

/-- An operand is nested less deep than an iteration of it. -/
theorem nesting_iteration {required : Nat}
    (hn : (Task.repetition rule operand required).nesting room input st ≤ n + 1)
    (st' : ParseState) : (Task.application operand).nesting room input st' ≤ n := by
  simp only [nesting] at hn ⊢
  omega

/-- Less input remains for the iterations to come. -/
theorem nesting_next {required missing : Nat} {attempt : ParseState}
    (hn : (Task.repetition rule operand required).nesting room input st ≤ n + 1)
    (hless : Text.utf8Length attempt.remainder < Text.utf8Length st.remainder) :
    (Task.repetition rule operand missing).nesting room input attempt ≤ n := by
  simp only [nesting] at hn ⊢
  omega

/-- A sequence or choice is nested no deeper than its body. -/
theorem nesting_rest (hn : (Task.body rule).nesting room input st ≤ n) :
    room * (input.utf8ByteSize + 2) + 1 ≤ n := by
  simp only [nesting] at hn
  omega

/-- A repetition is nested no deeper than its body. -/
theorem nesting_repetition (hn : (Task.body rule).nesting room input st ≤ n)
    (hinput : st.input = input) (required : Nat) :
    (Task.repetition rule operand required).nesting room input st ≤ n := by
  have hlen := st.position_add_remainder
  rw [hinput] at hlen
  simp only [nesting] at hn ⊢
  omega

end Task

/-- **The engine performs executions** as its text says, with calls nested so deep
that none is beyond. -/
theorem Executes.performs (h : Executes setting task st cx matched after cx')
    (hposed : task.WellPosed) (hinput : st.input = input) (hlaid : cx.MemoLaid input)
    (beyond : Machine) {room n : Nat}
    (hroom : setting.limits.recursionLimit.toNat ≤ room + cx.depth)
    (hn : task.nesting room input st ≤ n) :
    (Machine.within setting beyond n).perform setting st task cx = .ok (matched, after) cx' := by
  induction h generalizing room n with
  | refused henter =>
    obtain ⟨n, rfl⟩ := Task.exists_level hn
    exact Machine.attempt_of_refused henter
  | @recalled rule st _ _ cx₁ entry _ henter hentry hreplay =>
    obtain ⟨n, rfl⟩ := Task.exists_level hn
    refine (Machine.attempt_of_entered henter (applyOnce_eq_ok_iff.2
      (.inl ⟨entry, hentry, hreplay, rfl⟩))).trans ?_
    rw [hreplay.stop?_eq]
    rfl
  | @evaluated rule st _ cx cx₁ cx₂ _ henter hentry hbody ih =>
    have hlt := Context.depth_lt_of_limitMet?_eq_none (Context.enter_eq_true_iff.1 henter).2.1
    have hdepth₁ : cx₁.depth = cx.depth + 1 := by
      obtain ⟨-, -, rfl⟩ := Context.enter_eq_true_iff.1 henter
      rfl
    -- the application is one of those that may still be opened
    obtain ⟨room, rfl⟩ : ∃ less, room = less + 1 :=
      Nat.exists_eq_add_one_of_ne_zero (by omega)
    obtain ⟨n, rfl⟩ := Task.exists_level hn
    have hroom₁ : setting.limits.recursionLimit.toNat ≤ room + cx₁.depth := by omega
    have hn₁ : (Task.body rule).nesting room input st ≤ n := by
      simp only [Task.nesting, Nat.add_mul] at hn ⊢
      omega
    have hbody' := ih trivial hinput (hlaid.entered henter) hroom₁ hn₁
    exact Machine.attempt_of_entered henter
      (applyOnce_eq_ok_iff.2 (.inr ⟨hentry, cx₂, hbody', rfl⟩))
  | read hprimitive hread hadvance =>
    rw [Machine.perform, Machine.body_of_isPrimitive hprimitive]
    exact (applyPrimitive_eq_ok_iff hprimitive).2 (.read hprimitive hread hadvance)
  | unread hprimitive hread hmiss =>
    rw [Machine.perform, Machine.body_of_isPrimitive hprimitive]
    exact (applyPrimitive_eq_ok_iff hprimitive).2 (.unread hprimitive hread hmiss)
  | seq _ ih | choice _ ih => exact ih trivial hinput hlaid hroom (Task.nesting_rest hn)
  | notAhead_failed _ hmiss ih =>
    have hprobe := ih trivial hinput hlaid hroom (Task.nesting_operand hn ..)
    simp only [Machine.perform, Machine.body, applyBody, bind_eq_ok_iff]
    exact ⟨true, _, lookahead_eq_ok hprobe, fail_eq_ok_iff.2 ⟨rfl, rfl, hmiss⟩⟩
  | notAhead_matched _ ih =>
    have hprobe := ih trivial hinput hlaid hroom (Task.nesting_operand hn ..)
    simp only [Machine.perform, Machine.body, applyBody, bind_eq_ok_iff]
    exact ⟨false, _, lookahead_eq_ok hprobe, pure_eq_ok_iff.2 ⟨rfl, rfl⟩⟩
  | ahead_failed _ hmiss ih =>
    have hprobe := ih trivial hinput hlaid hroom (Task.nesting_operand hn ..)
    simp only [Machine.perform, Machine.body, applyBody, bind_eq_ok_iff]
    exact ⟨false, _, lookahead_eq_ok hprobe, fail_eq_ok_iff.2 ⟨rfl, rfl, hmiss⟩⟩
  | ahead_matched _ ih =>
    have hprobe := ih trivial hinput hlaid hroom (Task.nesting_operand hn ..)
    simp only [Machine.perform, Machine.body, applyBody, bind_eq_ok_iff]
    exact ⟨true, _, lookahead_eq_ok hprobe, pure_eq_ok_iff.2 ⟨rfl, rfl⟩⟩
  | zeroOrMore _ ih =>
    have hrest := ih (Nat.zero_le 1) hinput hlaid hroom (Task.nesting_repetition hn hinput 0)
    simp only [Machine.perform, Machine.body, bind_eq_ok_iff, Prod.exists]
    exact ⟨_, _, _, hrest, pure_eq_ok_iff.2 ⟨rfl, rfl⟩⟩
  | oneOrMore _ ih =>
    exact ih (Nat.le_refl 1) hinput hlaid hroom (Task.nesting_repetition hn hinput 1)
  | opt_taken _ hsame ih =>
    have hoperand := ih trivial hinput hlaid hroom (Task.nesting_operand hn ..)
    simp only [Machine.perform, Machine.body, applyBody, bind_eq_ok_iff, Prod.exists]
    refine ⟨true, _, _, hoperand, ?_⟩
    simp only [if_true, bind_eq_ok_iff, pure_eq_ok_iff]
    exact ⟨_, _, check_assign_eq_ok hsame, rfl, rfl⟩
  | opt_left _ ih =>
    have hoperand := ih trivial hinput hlaid hroom (Task.nesting_operand hn ..)
    simp only [Machine.perform, Machine.body, applyBody, bind_eq_ok_iff, Prod.exists]
    exact ⟨false, _, _, hoperand, pure_eq_ok_iff.2 ⟨rfl, rfl⟩⟩
  | node_failed _ ih =>
    have hoperand := ih trivial hinput hlaid hroom (Task.nesting_operand hn ..)
    simp only [Machine.perform, Machine.body, applyBody, applyNode, bind_eq_ok_iff, Prod.exists]
    exact ⟨false, _, _, hoperand, pure_eq_ok_iff.2 ⟨rfl, rfl⟩⟩
  | node_matched _ hle htoken hseek ih =>
    have hoperand := ih trivial hinput hlaid hroom (Task.nesting_operand hn ..)
    simp only [Machine.perform, Machine.body, applyBody, applyNode, bind_eq_ok_iff, Prod.exists]
    refine ⟨true, _, _, hoperand, ?_⟩
    rw [if_neg (by decide)]
    simp only [bind_eq_ok_iff, check_eq_ok_iff, record_eq_ok_iff, pure_eq_ok_iff]
    exact ⟨_, _, ⟨Span.make_eq_ok_iff.2 ⟨hle, rfl⟩, rfl⟩, _, _, ⟨htoken, rfl⟩, (), _, rfl,
      _, _, ⟨hseek, rfl⟩, rfl, rfl⟩
  | recursive htarget _ ih =>
    have hfound := ih trivial hinput hlaid hroom (Task.nesting_operand hn ..)
    simp only [Machine.perform, Machine.body, applyBody, bind_eq_ok_iff, resolve_eq_ok_iff]
    exact ⟨_, _, ⟨htarget, rfl⟩, hfound⟩
  | sequence_nil hsame =>
    simp only [Machine.perform, applySeq, bind_eq_ok_iff, pure_eq_ok_iff]
    exact ⟨_, _, check_assign_eq_ok hsame, rfl, rfl⟩
  | sequence_failed _ ih =>
    have hhead := ih trivial hinput hlaid hroom (Task.nesting_operand hn ..)
    simp only [Machine.perform, applySeq, bind_eq_ok_iff, Prod.exists]
    refine ⟨false, _, _, hhead, ?_⟩
    rw [if_neg Bool.false_ne_true, rewind_eq_ok_iff]
    exact ⟨rfl, rfl⟩
  | sequence_next hfirst _ ih ih' =>
    have hhead := ih trivial hinput hlaid hroom (Task.nesting_operand hn ..)
    obtain ⟨hlaid₁, -, hnext⟩ := hfirst.handOn hinput hlaid (Nat.le_refl _)
    have hrest := ih' trivial (hnext rfl).1 hlaid₁ (by rwa [hfirst.frame.depth_eq]) hn
    simp only [Machine.perform, applySeq, bind_eq_ok_iff, Prod.exists]
    exact ⟨true, _, _, hhead, hrest⟩
  | alternatives_nil => exact pure_eq_ok_iff.2 ⟨rfl, rfl⟩
  | alternatives_first _ hsame ih =>
    have hhead := ih trivial hinput hlaid hroom (Task.nesting_operand hn ..)
    simp only [Machine.perform, applyChoice, bind_eq_ok_iff, Prod.exists]
    refine ⟨true, _, _, hhead, ?_⟩
    simp only [if_true, bind_eq_ok_iff, pure_eq_ok_iff]
    exact ⟨_, _, check_assign_eq_ok hsame, rfl, rfl⟩
  | alternatives_aborted _ haborted ih =>
    have hhead := ih trivial hinput hlaid hroom (Task.nesting_operand hn ..)
    simp only [Machine.perform, applyChoice, bind_eq_ok_iff, Prod.exists]
    refine ⟨false, _, _, hhead, ?_⟩
    simp only [Bool.false_eq_true, if_false, bind_eq_ok_iff, get_eq_ok_iff]
    refine ⟨_, _, ⟨rfl, rfl⟩, ?_⟩
    rw [if_pos haborted, pure_eq_ok_iff]
    exact ⟨rfl, rfl⟩
  | alternatives_next hfirst hgoing _ ih ih' =>
    have hhead := ih trivial hinput hlaid hroom (Task.nesting_operand hn ..)
    obtain ⟨hlaid₁, -, -⟩ := hfirst.handOn hinput hlaid (Nat.le_refl _)
    have hrest := ih' trivial hinput hlaid₁ (by rwa [hfirst.frame.depth_eq]) hn
    simp only [Machine.perform, applyChoice, bind_eq_ok_iff, Prod.exists]
    refine ⟨false, _, _, hhead, ?_⟩
    simp only [Bool.false_eq_true, if_false, bind_eq_ok_iff, get_eq_ok_iff]
    refine ⟨_, _, ⟨rfl, rfl⟩, ?_⟩
    rw [if_neg (by rw [hgoing]; exact Bool.false_ne_true)]
    exact hrest
  | repetition_ended _ ih =>
    obtain ⟨n, rfl⟩ := Task.exists_level hn
    have hoperand := ih trivial hinput hlaid hroom (Task.nesting_iteration hn ..)
    exact Machine.iterate_ended hoperand
  | @repetition_next _ _ required _ _ _ _ _ _ _ hfirst hlt hsame _ ih ih' =>
    obtain ⟨n, rfl⟩ := Task.exists_level hn
    have hoperand := ih trivial hinput hlaid hroom (Task.nesting_iteration hn ..)
    obtain ⟨hlaid₁, -, hnext⟩ := hfirst.handOn hinput hlaid (Nat.le_refl _)
    have hnone : required - 1 = 0 := Nat.sub_eq_zero_of_le hposed
    have hrest := ih' (hnone ▸ Nat.zero_le 1) (hnext rfl).1 hlaid₁
      (by rwa [hfirst.frame.depth_eq]) (Task.nesting_next hn (ParseState.remainder_lt hsame hlt))
    exact (Machine.iterate_next hoperand hsame hlt).trans hrest
  | repetition_dropped hfirst hnot ih =>
    obtain ⟨n, rfl⟩ := Task.exists_level hn
    have hoperand := ih trivial hinput hlaid hroom (Task.nesting_iteration hn ..)
    obtain ⟨-, -, hnext⟩ := hfirst.handOn hinput hlaid (Nat.le_refl _)
    exact Machine.iterate_dropped hoperand (Nat.le_antisymm (Nat.le_of_not_lt hnot) (hnext rfl).2)
  | repetition_kept hfirst hnot hsame ih =>
    obtain ⟨n, rfl⟩ := Task.exists_level hn
    have hoperand := ih trivial hinput hlaid hroom (Task.nesting_iteration hn ..)
    obtain ⟨-, -, hnext⟩ := hfirst.handOn hinput hlaid (Nat.le_refl _)
    exact Machine.iterate_kept hoperand hsame
      (Nat.le_antisymm (Nat.le_of_not_lt hnot) (hnext rfl).2)

/-! ## Runs of a parser -/

namespace Parser

/-- **Every run terminates**, for any rules, input and limits, whether or not it
remembers outcomes: the engine, taken at its text, ends well with its calls nested
no deeper than the recursion limit and the input allow, and the run is the verdict
on it. What the engine does beyond that depth makes no difference. -/
theorem run_terminates (p : Parser) (scope : Scope) (hresolves : scope.Resolves p.root)
    (input : String) (complete : Bool) :
    ∃ matched st cx result,
      (∀ beyond n, p.limits.recursionLimit.toNat * (input.utf8ByteSize + 2) < n →
        (Machine.within (p.setting scope) beyond n).apply p.root (.start input)
          (.start p.memoize) = .ok (matched, st) cx) ∧
      p.verdict scope complete matched st cx = .ok result ∧
      p.run scope input complete = ⟨.ok result, cx.log.reverse⟩ := by
  obtain ⟨matched, st, cx, happly, hexec⟩ := p.exists_run hresolves input
  have hlaid : (Context.start p.memoize).MemoLaid input := .start p.memoize input
  obtain ⟨result, hresult, -⟩ :=
    p.verdict_sound scope complete cx (hexec.contract trivial hlaid).2
  refine ⟨matched, st, cx, result, fun beyond n hn => ?_, hresult, ?_⟩
  · exact hexec.performs trivial rfl hlaid beyond (Nat.le_refl _) hn
  · rw [p.run_eq_of_apply happly, hresult]

/-- A row that begins with itself is looked for in itself over and over, and the run ends
nevertheless, with the largest limits that there are. Calls are nested at most four times as deep
as applications may be. -/
theorem run_terminates_row :
    ∃ matched st cx result,
      (∀ beyond n, 4 * 4294967295 < n →
        (Machine.within ⟨LeftRecursion.scope, ⟨none, 4294967295⟩⟩ beyond n).apply LeftRecursion.row
          (.start "xx") (.start false) = .ok (matched, st) cx) ∧
      { ofRule LeftRecursion.row with limits := ⟨none, 4294967295⟩ }.verdict LeftRecursion.scope
        true matched st cx = .ok result ∧
      { ofRule LeftRecursion.row with limits := ⟨none, 4294967295⟩ }.run LeftRecursion.scope "xx"
        true = ⟨.ok result, cx.log.reverse⟩ := by
  have hbound : (4294967295 : UInt32).toNat * ("xx".utf8ByteSize + 2) = 4 * 4294967295 := rfl
  obtain ⟨matched, st, cx, result, hwithin, hverdict, hrun⟩ :=
    run_terminates { ofRule LeftRecursion.row with limits := ⟨none, 4294967295⟩ }
      LeftRecursion.scope LeftRecursion.resolves "xx" true
  exact ⟨matched, st, cx, result, fun beyond n hn => hwithin beyond n (hbound ▸ hn), hverdict,
    hrun⟩

end Parser

end Packrat
