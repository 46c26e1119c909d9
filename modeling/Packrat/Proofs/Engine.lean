import Packrat.Proofs.Frame

/-!
# The engine computes executions

Every combinator of the engine ends well exactly when the relation has an
execution for it, and then with the same outcome, state and context. The
combinators are proven for any matcher that agrees with the relation on the
applications that they make (`Matcher.Agrees`); the recursion of the engine then
closes the circle (`apply_eq_ok_iff`).
-/

namespace Packrat

/-! ## Steps that end well -/

namespace Run

variable {α β : Type} {cx cx' : Context}

@[simp] theorem bind_eq_ok_iff {x : Run α} {f : α → Run β} {b : β} :
    (x >>= f) cx = .ok b cx' ↔ ∃ a cx₁, x cx = .ok a cx₁ ∧ f a cx₁ = .ok b cx' := by
  show EStateM.bind x f cx = _ ↔ _
  unfold EStateM.bind
  cases x cx with
  | ok a cx₁ =>
    constructor
    · exact fun h => ⟨a, cx₁, rfl, h⟩
    · rintro ⟨a', cx₁', hx, h⟩
      cases hx
      exact h
  | error breach cx₁ =>
    constructor
    · intro h
      cases h
    · rintro ⟨_, _, hx, _⟩
      cases hx

theorem bind_eq_of_ok {x : Run α} {f : α → Run β} {a : α} (h : x cx = .ok a cx') :
    (x >>= f) cx = f a cx' := by
  show EStateM.bind x f cx = _
  unfold EStateM.bind
  rw [h]

@[simp] theorem pure_eq_ok_iff {a b : α} : (pure a : Run α) cx = .ok b cx' ↔ b = a ∧ cx' = cx := by
  show EStateM.Result.ok a cx = _ ↔ _
  rw [EStateM.Result.ok.injEq, eq_comm, @eq_comm _ cx]

@[simp] theorem throw_ne_ok {breach : Breach} {a : α} : (throw breach : Run α) cx ≠ .ok a cx' := by
  intro h
  cases h

@[simp] theorem get_eq_ok_iff {a : Context} :
    (get : Run Context) cx = .ok a cx' ↔ a = cx ∧ cx' = cx := by
  show EStateM.Result.ok cx cx = _ ↔ _
  rw [EStateM.Result.ok.injEq, eq_comm, @eq_comm _ cx]

@[simp] theorem modify_eq_ok_iff {f : Context → Context} {u : PUnit} :
    (modify f : Run PUnit) cx = .ok u cx' ↔ cx' = f cx := by
  show EStateM.Result.ok _ (f cx) = _ ↔ _
  rw [EStateM.Result.ok.injEq, @eq_comm _ (f cx)]
  exact and_iff_right rfl

@[simp] theorem modifyGet_eq_ok_iff {f : Context → α × Context} {a : α} :
    (modifyGet f : Run α) cx = .ok a cx' ↔ f cx = (a, cx') := by
  show EStateM.modifyGet f cx = _ ↔ _
  unfold EStateM.modifyGet
  rcases f cx with ⟨b, cx₁⟩
  rw [EStateM.Result.ok.injEq, Prod.mk.injEq]

@[simp] theorem check_eq_ok_iff {x : Except Breach α} {a : α} :
    Apply.check x cx = .ok a cx' ↔ x = .ok a ∧ cx' = cx := by
  cases x with
  | ok b =>
    rw [Apply.check, pure_eq_ok_iff, Except.ok.injEq, @eq_comm _ a]
  | error breach =>
    refine iff_of_false throw_ne_ok ?_
    rintro ⟨h, -⟩
    cases h

@[simp] theorem record_eq_ok_iff {event : Event} {u : Unit} :
    Apply.record event cx = .ok u cx' ↔ cx' = cx.record event :=
  modify_eq_ok_iff

end Run

open Run Apply

variable {setting : Setting} {cx cx' : Context} {st after : ParseState} {matched : Bool}

theorem resolve_eq_ok_iff {id : RuleId} {key : String} {target : Rule} :
    resolve setting id key cx = .ok target cx' ↔
      setting.scope.target id key = some target ∧ cx' = cx.record (.resolved id target) := by
  unfold resolve
  cases setting.scope.target id key with
  | some found =>
    simp only [bind_eq_ok_iff, record_eq_ok_iff, pure_eq_ok_iff, Option.some.injEq]
    constructor
    · rintro ⟨_, _, rfl, rfl, rfl⟩
      exact ⟨rfl, rfl⟩
    · rintro ⟨rfl, rfl⟩
      exact ⟨(), _, rfl, rfl, rfl⟩
  | none =>
    refine iff_of_false throw_ne_ok ?_
    rintro ⟨h, -⟩
    cases h

theorem resolveAll_eq_ok_iff : ∀ {refs : List (RuleId × String)} {cx : Context} {u : Unit},
    resolveAll setting refs cx = .ok u cx' ↔ cx.consult setting.scope refs = some cx'
  | [], cx, _ => by
    rw [resolveAll, Context.consult, pure_eq_ok_iff, Option.some.injEq, @eq_comm _ cx]
    exact and_iff_right rfl
  | (id, key) :: rest, cx, _ => by
    simp only [resolveAll, Context.consult, bind_eq_ok_iff, resolve_eq_ok_iff]
    constructor
    · rintro ⟨target, _, ⟨htarget, rfl⟩, h⟩
      rw [htarget]
      exact resolveAll_eq_ok_iff.1 h
    · intro h
      split at h
      · rename_i target htarget
        exact ⟨target, _, ⟨htarget, rfl⟩, resolveAll_eq_ok_iff.2 h⟩
      · cases h

theorem fail_eq_ok_iff {rule : Rule} :
    fail setting rule st cx = .ok (matched, after) cx' ↔
      matched = false ∧ after = st ∧ cx.miss setting.scope rule st.position = some cx' := by
  unfold fail Context.miss
  simp only [bind_eq_ok_iff, get_eq_ok_iff]
  constructor
  · rintro ⟨_, _, ⟨rfl, rfl⟩, h⟩
    split at h
    · rename_i hopen
      simp only [bind_eq_ok_iff, modify_eq_ok_iff, pure_eq_ok_iff, Prod.mk.injEq] at h
      obtain ⟨_, cx₁, hconsult, _, _, rfl, ⟨rfl, rfl⟩, rfl⟩ := h
      rw [if_pos hopen, resolveAll_eq_ok_iff.1 hconsult]
      exact ⟨rfl, rfl, rfl⟩
    · rename_i hclosed
      simp only [pure_eq_ok_iff, Prod.mk.injEq] at h
      obtain ⟨⟨rfl, rfl⟩, rfl⟩ := h
      rw [if_neg hclosed]
      exact ⟨rfl, rfl, rfl⟩
  · rintro ⟨rfl, rfl, h⟩
    refine ⟨cx, cx, ⟨rfl, rfl⟩, ?_⟩
    split at h
    · rename_i hopen
      obtain ⟨cx₁, hconsult, rfl⟩ := Option.map_eq_some_iff.1 h
      rw [if_pos hopen]
      simp only [bind_eq_ok_iff, modify_eq_ok_iff, pure_eq_ok_iff]
      exact ⟨(), cx₁, resolveAll_eq_ok_iff.2 hconsult, (), _, rfl, trivial, rfl⟩
    · rename_i hclosed
      cases h
      rw [if_neg hclosed, pure_eq_ok_iff]
      exact ⟨rfl, rfl⟩

theorem replay_eq_ok_iff {entry : MemoEntry} :
    replay entry st cx = .ok (matched, after) cx' ↔ Replays st entry matched after ∧ cx' = cx := by
  cases entry with
  | failed =>
    simp only [replay, pure_eq_ok_iff, Prod.mk.injEq]
    constructor
    · rintro ⟨⟨rfl, rfl⟩, rfl⟩
      exact ⟨.failed, rfl⟩
    · rintro ⟨h, rfl⟩
      cases h with
      | failed => exact ⟨⟨rfl, rfl⟩, rfl⟩
  | matched stop tokens =>
    simp only [replay, bind_eq_ok_iff, check_eq_ok_iff, pure_eq_ok_iff, Prod.mk.injEq]
    constructor
    · rintro ⟨moved, _, ⟨hseek, rfl⟩, ⟨rfl, rfl⟩, rfl⟩
      exact ⟨.matched hseek, rfl⟩
    · rintro ⟨h, rfl⟩
      cases h with
      | matched hseek => exact ⟨_, _, ⟨hseek, rfl⟩, ⟨rfl, rfl⟩, rfl⟩

/-- Going back is logged, if the cursor moved. -/
theorem rewind_eq_ok_iff {α : Type} {a b : α} {source target : Nat} :
    (if source != target then do
        record (.backtrack source target)
        pure a
      else pure a : Run α) cx = .ok b cx' ↔ b = a ∧ cx' = cx.rewound source target := by
  unfold Context.rewound
  split
  · simp only [bind_eq_ok_iff, record_eq_ok_iff, pure_eq_ok_iff]
    constructor
    · rintro ⟨_, _, rfl, rfl, rfl⟩
      exact ⟨rfl, rfl⟩
    · rintro ⟨rfl, rfl⟩
      exact ⟨(), _, rfl, rfl, rfl⟩
  · exact pure_eq_ok_iff

/-! ## Combinators -/

/-- The matcher computes the executions of applications, those that are begun
with `depth` open ones or more. -/
def Matcher.Agrees (setting : Setting) (depth : Nat) (m : Matcher) : Prop :=
  ∀ {rule st cx matched after cx'}, depth ≤ cx.depth →
    (m rule st cx = .ok (matched, after) cx' ↔
      Executes setting (.application rule) st cx matched after cx')

section Combinators

variable {depth : Nat} {m : Matcher}

theorem applySeq_eq_ok_iff (hm : m.Agrees setting depth) {origin : ParseState} :
    ∀ {rules : List Rule} {attempt : ParseState} {cx : Context}, depth ≤ cx.depth →
      (applySeq m origin rules attempt cx = .ok (matched, after) cx' ↔
        Executes setting (.sequence origin rules) attempt cx matched after cx')
  | [], attempt, cx, _ => by
    simp only [applySeq, bind_eq_ok_iff, check_eq_ok_iff, pure_eq_ok_iff, Prod.mk.injEq,
      ParseState.assign_eq_ok_iff]
    constructor
    · rintro ⟨_, _, ⟨⟨hinput, rfl⟩, rfl⟩, ⟨rfl, rfl⟩, rfl⟩
      exact .sequence_nil hinput
    · intro h
      cases h with
      | sequence_nil hinput => exact ⟨_, _, ⟨⟨hinput, rfl⟩, rfl⟩, ⟨rfl, rfl⟩, rfl⟩
  | rule :: rest, attempt, cx, hdepth => by
    simp only [applySeq, bind_eq_ok_iff, Prod.exists, hm hdepth]
    constructor
    · rintro ⟨headMatched, next, cx₁, hhead, h⟩
      have hdepth₁ : depth ≤ cx₁.depth := by rw [hhead.frame.depth_eq]; exact hdepth
      cases headMatched with
      | true =>
        rw [if_pos rfl] at h
        exact .sequence_next hhead ((applySeq_eq_ok_iff hm hdepth₁).1 h)
      | false =>
        rw [if_neg Bool.false_ne_true, rewind_eq_ok_iff, Prod.mk.injEq] at h
        obtain ⟨⟨rfl, rfl⟩, rfl⟩ := h
        exact .sequence_failed hhead
    · intro h
      cases h with
      | sequence_failed hhead =>
        refine ⟨false, _, _, hhead, ?_⟩
        rw [if_neg Bool.false_ne_true, rewind_eq_ok_iff]
        exact ⟨rfl, rfl⟩
      | sequence_next hhead hrest =>
        have hdepth₁ := hhead.frame.depth_eq
        refine ⟨true, _, _, hhead, ?_⟩
        rw [if_pos rfl]
        exact (applySeq_eq_ok_iff hm (by rw [hdepth₁]; exact hdepth)).2 hrest

theorem applyChoice_eq_ok_iff (hm : m.Agrees setting depth) :
    ∀ {rules : List Rule} {cx : Context}, depth ≤ cx.depth →
      (applyChoice m st rules cx = .ok (matched, after) cx' ↔
        Executes setting (.alternatives rules) st cx matched after cx')
  | [], cx, _ => by
    simp only [applyChoice, pure_eq_ok_iff, Prod.mk.injEq]
    constructor
    · rintro ⟨⟨rfl, rfl⟩, rfl⟩
      exact .alternatives_nil
    · intro h
      cases h with
      | alternatives_nil => exact ⟨⟨rfl, rfl⟩, rfl⟩
  | rule :: rest, cx, hdepth => by
    simp only [applyChoice, bind_eq_ok_iff, Prod.exists, hm hdepth]
    constructor
    · rintro ⟨headMatched, attempt, cx₁, hhead, h⟩
      have hdepth₁ : depth ≤ cx₁.depth := by rw [hhead.frame.depth_eq]; exact hdepth
      cases headMatched with
      | true =>
        simp only [if_true, bind_eq_ok_iff, check_eq_ok_iff, pure_eq_ok_iff, Prod.mk.injEq,
          ParseState.assign_eq_ok_iff] at h
        obtain ⟨_, _, ⟨⟨hinput, rfl⟩, rfl⟩, ⟨rfl, rfl⟩, rfl⟩ := h
        exact .alternatives_first hhead hinput
      | false =>
        simp only [Bool.false_eq_true, if_false, bind_eq_ok_iff, get_eq_ok_iff] at h
        obtain ⟨_, _, ⟨rfl, rfl⟩, h⟩ := h
        split at h
        · rename_i haborted
          rw [pure_eq_ok_iff, Prod.mk.injEq] at h
          obtain ⟨⟨rfl, rfl⟩, rfl⟩ := h
          exact .alternatives_aborted hhead haborted
        · rename_i haborted
          exact .alternatives_next hhead (Bool.not_eq_true _ ▸ haborted)
            ((applyChoice_eq_ok_iff hm hdepth₁).1 h)
    · intro h
      cases h with
      | alternatives_first hhead hinput =>
        refine ⟨true, _, _, hhead, ?_⟩
        rw [if_pos rfl]
        simp only [bind_eq_ok_iff, check_eq_ok_iff, pure_eq_ok_iff]
        exact ⟨_, _, ⟨ParseState.assign_eq_ok_iff.2 ⟨hinput, rfl⟩, rfl⟩, rfl, rfl⟩
      | alternatives_aborted hhead haborted =>
        refine ⟨false, _, _, hhead, ?_⟩
        simp only [Bool.false_eq_true, if_false, bind_eq_ok_iff, get_eq_ok_iff]
        refine ⟨_, _, ⟨rfl, rfl⟩, ?_⟩
        rw [if_pos haborted, pure_eq_ok_iff]
        exact ⟨rfl, rfl⟩
      | alternatives_next hhead haborted hrest =>
        have hdepth₁ := hhead.frame.depth_eq
        refine ⟨false, _, _, hhead, ?_⟩
        simp only [Bool.false_eq_true, if_false, bind_eq_ok_iff, get_eq_ok_iff]
        refine ⟨_, _, ⟨rfl, rfl⟩, ?_⟩
        rw [if_neg (by rw [haborted]; exact Bool.false_ne_true)]
        exact (applyChoice_eq_ok_iff hm (by rw [hdepth₁]; exact hdepth)).2 hrest

/-- A lookahead keeps the outcome of its operand only. -/
theorem lookahead_eq_ok_iff (hm : m.Agrees setting depth) {operand : Rule}
    (hdepth : depth ≤ cx.depth) :
    lookahead m operand st cx = .ok matched cx' ↔
      ∃ probe cx₁, Executes setting (.application operand) st cx.openLookahead matched probe cx₁ ∧
        cx' = cx₁.closeLookahead.rewound probe.position st.position := by
  simp only [lookahead, bind_eq_ok_iff, modify_eq_ok_iff, Prod.exists]
  constructor
  · rintro ⟨_, _, rfl, probeMatched, probe, cx₁, hprobe, _, _, rfl, h⟩
    obtain ⟨rfl, rfl⟩ := rewind_eq_ok_iff.1 h
    have hopen : depth ≤ cx.openLookahead.depth := hdepth
    exact ⟨probe, cx₁, (hm hopen).1 hprobe, rfl⟩
  · rintro ⟨probe, cx₁, hprobe, rfl⟩
    have hopen : depth ≤ cx.openLookahead.depth := hdepth
    exact ⟨(), _, rfl, matched, probe, cx₁, (hm hopen).2 hprobe, (), _, rfl,
      rewind_eq_ok_iff.2 ⟨rfl, rfl⟩⟩

theorem check_assign_bind {α : Type} {attempt : ParseState} (f : ParseState → Run α) :
    (match _h : st.assign attempt with
      | .ok next => f next
      | .error breach => throw breach) = check (st.assign attempt) >>= f := by
  cases st.assign attempt <;> rfl

/-- One iteration of a repetition, without the reason for which it ends. -/
theorem applyRepeat_eq (m : Matcher) (rule operand : Rule) (required : Nat) (st : ParseState) :
    applyRepeat m rule operand required st = (do
      let (matched, attempt) ← m operand st
      if !matched then return (required == 0, st)
      if st.position < attempt.position then
        let next ← check (st.assign attempt)
        applyRepeat m rule operand (required - 1) next
      else
        let st ← if required == 0 then pure st else check (st.assign attempt)
        record (.stalled rule st.position)
        return (true, st)) := by
  rw [applyRepeat]
  congr 1
  funext ⟨matched, attempt⟩
  dsimp only
  split
  · rfl
  · split
    · exact check_assign_bind _
    · rfl

theorem applyRepeat_eq_ok_iff (hm : m.Agrees setting depth) {rule operand : Rule}
    {required : Nat} {st : ParseState} {cx : Context} (hdepth : depth ≤ cx.depth) :
    applyRepeat m rule operand required st cx = .ok (matched, after) cx' ↔
      Executes setting (.repetition rule operand required) st cx matched after cx' := by
  rw [applyRepeat_eq]
  simp only [bind_eq_ok_iff, Prod.exists, hm hdepth]
  constructor
  · rintro ⟨operandMatched, attempt, cx₁, hoperand, h⟩
    have hdepth₁ : depth ≤ cx₁.depth := by rw [hoperand.frame.depth_eq]; exact hdepth
    cases operandMatched with
    | false =>
      simp only [Bool.not_false, if_true, pure_eq_ok_iff, Prod.mk.injEq] at h
      obtain ⟨⟨rfl, rfl⟩, rfl⟩ := h
      exact .repetition_ended hoperand
    | true =>
      rw [if_neg (by decide)] at h
      split at h
      · rename_i hpos
        simp only [bind_eq_ok_iff, check_eq_ok_iff, ParseState.assign_eq_ok_iff] at h
        obtain ⟨_, _, ⟨⟨hinput, rfl⟩, rfl⟩, h⟩ := h
        have hlt := ParseState.remainder_lt hinput hpos
        exact .repetition_next hoperand hpos hinput ((applyRepeat_eq_ok_iff hm hdepth₁).1 h)
      · rename_i hpos
        cases required with
        | zero =>
          simp only [BEq.rfl, if_true, bind_eq_ok_iff, record_eq_ok_iff, pure_eq_ok_iff,
            Prod.mk.injEq] at h
          obtain ⟨_, _, ⟨rfl, rfl⟩, _, _, rfl, ⟨rfl, rfl⟩, rfl⟩ := h
          exact .repetition_dropped hoperand hpos
        | succ missing =>
          rw [if_neg (by simp)] at h
          simp only [bind_eq_ok_iff, check_eq_ok_iff, record_eq_ok_iff, pure_eq_ok_iff,
            Prod.mk.injEq, ParseState.assign_eq_ok_iff] at h
          obtain ⟨_, _, ⟨⟨hinput, rfl⟩, rfl⟩, _, _, rfl, ⟨rfl, rfl⟩, rfl⟩ := h
          exact .repetition_kept hoperand hpos hinput
  · intro h
    cases h with
    | repetition_ended hoperand =>
      refine ⟨false, _, _, hoperand, ?_⟩
      simp only [Bool.not_false, if_true, pure_eq_ok_iff]
      exact ⟨trivial, trivial⟩
    | repetition_next hoperand hpos hinput hrest =>
      have hdepth₁ := hoperand.frame.depth_eq
      have hlt := ParseState.remainder_lt hinput hpos
      refine ⟨true, _, _, hoperand, ?_⟩
      rw [if_neg (by decide), if_pos hpos, bind_eq_ok_iff]
      refine ⟨_, _, check_eq_ok_iff.2 ⟨ParseState.assign_eq_ok_iff.2 ⟨hinput, rfl⟩, rfl⟩, ?_⟩
      exact (applyRepeat_eq_ok_iff hm (by rw [hdepth₁]; exact hdepth)).2 hrest
    | repetition_dropped hoperand hpos =>
      refine ⟨true, _, _, hoperand, ?_⟩
      rw [if_neg (by decide), if_neg hpos, if_pos (by rfl)]
      simp only [bind_eq_ok_iff, record_eq_ok_iff, pure_eq_ok_iff]
      exact ⟨_, _, ⟨rfl, rfl⟩, (), _, rfl, rfl, rfl⟩
    | repetition_kept hoperand hpos hinput =>
      refine ⟨true, _, _, hoperand, ?_⟩
      rw [if_neg (by decide), if_neg hpos, if_neg (by simp)]
      simp only [bind_eq_ok_iff, check_eq_ok_iff, record_eq_ok_iff, pure_eq_ok_iff]
      exact ⟨_, _, ⟨ParseState.assign_eq_ok_iff.2 ⟨hinput, rfl⟩, rfl⟩, (), _, rfl, rfl, rfl⟩
termination_by Text.utf8Length st.remainder

theorem applyNode_eq_ok_iff (hm : m.Agrees setting depth) {id : RuleId} {operand : Rule}
    (hdepth : depth ≤ cx.depth) :
    applyNode setting m (.node id operand) operand st cx = .ok (matched, after) cx' ↔
      Executes setting (.body (.node id operand)) st cx matched after cx' := by
  simp only [applyNode, bind_eq_ok_iff, Prod.exists, hm hdepth]
  constructor
  · rintro ⟨operandMatched, inner, cx₁, hoperand, h⟩
    cases operandMatched with
    | false =>
      simp only [Bool.not_false, if_true, pure_eq_ok_iff, Prod.mk.injEq] at h
      obtain ⟨⟨rfl, rfl⟩, rfl⟩ := h
      exact .node_failed hoperand
    | true =>
      rw [if_neg (by decide)] at h
      simp only [bind_eq_ok_iff, check_eq_ok_iff, record_eq_ok_iff, pure_eq_ok_iff,
        Prod.mk.injEq, Span.make_eq_ok_iff] at h
      obtain ⟨_, _, ⟨⟨hle, rfl⟩, rfl⟩, token, _, ⟨htoken, rfl⟩, _, _, rfl, moved, _,
        ⟨hseek, rfl⟩, ⟨rfl, rfl⟩, rfl⟩ := h
      exact .node_matched hoperand hle htoken hseek
  · intro h
    cases h with
    | read hprimitive | unread hprimitive => cases hprimitive
    | node_failed hoperand =>
      refine ⟨false, _, _, hoperand, ?_⟩
      simp only [Bool.not_false, if_true, pure_eq_ok_iff]
      exact ⟨trivial, trivial⟩
    | node_matched hoperand hle htoken hseek =>
      refine ⟨true, _, _, hoperand, ?_⟩
      rw [if_neg (by decide)]
      simp only [bind_eq_ok_iff, check_eq_ok_iff, record_eq_ok_iff, pure_eq_ok_iff]
      exact ⟨_, _, ⟨Span.make_eq_ok_iff.2 ⟨hle, rfl⟩, rfl⟩, _, _, ⟨htoken, rfl⟩, (), _, rfl,
        _, _, ⟨hseek, rfl⟩, rfl, rfl⟩

theorem advance_zero (st : ParseState) : st.advance 0 = .ok st := by
  obtain ⟨moved, hmoved⟩ := st.exists_seek_eq_ok st.isBoundary_position
  obtain ⟨hinput, hpos, hlog⟩ := ParseState.seek_eq_ok hmoved
  have hsame : moved = st := ParseState.eq_of_position_eq hinput hpos hlog
  rw [hsame] at hmoved
  exact hmoved

/-- The body of a primitive: what it reads decides. -/
theorem applyBody_of_isPrimitive {rule : Rule} (h : rule.isPrimitive = true) :
    applyBody setting m rule st =
      match rule.readsAt? st.input st.position with
      | some n => do return (true, ← check (st.advance n))
      | none => fail setting rule st := by
  rw [st.readsAt?_eq]
  cases rule with
  | char id accepted =>
    simp only [applyBody, Rule.reads?]
    cases st.remainder with
    | nil => rfl
    | cons c rest => by_cases haccepts : accepted.accepts c = true <;> simp [haccepts]
  | literal id text =>
    simp only [applyBody, Rule.reads?]
    split <;> rfl
  | regex id expression =>
    cases hread : expression.matchLength? st.previous? st.remainder with
    | some length => simp only [applyBody, Rule.reads?, hread]
    | none => simp only [applyBody, Rule.reads?, hread]
  | endOfInput id =>
    simp only [applyBody, Rule.reads?, st.isAtEnd_eq]
    split
    · dsimp only
      rw [advance_zero]
      rfl
    · rfl
  | seq | choice | notAhead | ahead | zeroOrMore | oneOrMore | opt | node | recursive => cases h

theorem applyPrimitive_eq_ok_iff {rule : Rule} (hprimitive : rule.isPrimitive = true) :
    applyBody setting m rule st cx = .ok (matched, after) cx' ↔
      Executes setting (.body rule) st cx matched after cx' := by
  rw [applyBody_of_isPrimitive hprimitive]
  constructor
  · intro h
    split at h
    · rename_i n hread
      simp only [bind_eq_ok_iff, check_eq_ok_iff, pure_eq_ok_iff, Prod.mk.injEq] at h
      obtain ⟨_, _, ⟨hadvance, rfl⟩, ⟨rfl, rfl⟩, rfl⟩ := h
      exact .read hprimitive hread hadvance
    · rename_i hread
      obtain ⟨rfl, rfl, hmiss⟩ := fail_eq_ok_iff.1 h
      exact .unread hprimitive hread hmiss
  · intro h
    cases h with
    | read _ hread hadvance =>
      rw [hread]
      simp only [bind_eq_ok_iff, check_eq_ok_iff, pure_eq_ok_iff]
      exact ⟨_, _, ⟨hadvance, rfl⟩, rfl, rfl⟩
    | unread _ hread hmiss =>
      rw [hread]
      exact fail_eq_ok_iff.2 ⟨rfl, rfl, hmiss⟩
    | seq | choice | notAhead_failed | notAhead_matched | ahead_failed | ahead_matched
    | zeroOrMore | oneOrMore | opt_taken | opt_left | node_failed | node_matched | recursive =>
      cases hprimitive

theorem applyNotAhead_eq_ok_iff (hm : m.Agrees setting depth) {id : RuleId} {operand : Rule}
    (hdepth : depth ≤ cx.depth) :
    applyBody setting m (.notAhead id operand) st cx = .ok (matched, after) cx' ↔
      Executes setting (.body (.notAhead id operand)) st cx matched after cx' := by
  simp only [applyBody, bind_eq_ok_iff, lookahead_eq_ok_iff hm hdepth]
  constructor
  · rintro ⟨probeMatched, _, ⟨probe, cx₁, hprobe, rfl⟩, h⟩
    cases probeMatched with
    | true =>
      rw [if_pos rfl] at h
      obtain ⟨rfl, rfl, hmiss⟩ := fail_eq_ok_iff.1 h
      exact .notAhead_failed hprobe hmiss
    | false =>
      rw [if_neg Bool.false_ne_true, pure_eq_ok_iff, Prod.mk.injEq] at h
      obtain ⟨⟨rfl, rfl⟩, rfl⟩ := h
      exact .notAhead_matched hprobe
  · intro h
    cases h with
    | read hprimitive | unread hprimitive => cases hprimitive
    | notAhead_failed hprobe hmiss =>
      exact ⟨true, _, ⟨_, _, hprobe, rfl⟩, fail_eq_ok_iff.2 ⟨rfl, rfl, hmiss⟩⟩
    | notAhead_matched hprobe =>
      exact ⟨false, _, ⟨_, _, hprobe, rfl⟩, pure_eq_ok_iff.2 ⟨rfl, rfl⟩⟩

theorem applyAhead_eq_ok_iff (hm : m.Agrees setting depth) {id : RuleId} {operand : Rule}
    (hdepth : depth ≤ cx.depth) :
    applyBody setting m (.ahead id operand) st cx = .ok (matched, after) cx' ↔
      Executes setting (.body (.ahead id operand)) st cx matched after cx' := by
  simp only [applyBody, bind_eq_ok_iff, lookahead_eq_ok_iff hm hdepth]
  constructor
  · rintro ⟨probeMatched, _, ⟨probe, cx₁, hprobe, rfl⟩, h⟩
    cases probeMatched with
    | true =>
      rw [if_pos rfl, pure_eq_ok_iff, Prod.mk.injEq] at h
      obtain ⟨⟨rfl, rfl⟩, rfl⟩ := h
      exact .ahead_matched hprobe
    | false =>
      rw [if_neg Bool.false_ne_true] at h
      obtain ⟨rfl, rfl, hmiss⟩ := fail_eq_ok_iff.1 h
      exact .ahead_failed hprobe hmiss
  · intro h
    cases h with
    | read hprimitive | unread hprimitive => cases hprimitive
    | ahead_failed hprobe hmiss =>
      exact ⟨false, _, ⟨_, _, hprobe, rfl⟩, fail_eq_ok_iff.2 ⟨rfl, rfl, hmiss⟩⟩
    | ahead_matched hprobe =>
      exact ⟨true, _, ⟨_, _, hprobe, rfl⟩, pure_eq_ok_iff.2 ⟨rfl, rfl⟩⟩

theorem applyOpt_eq_ok_iff (hm : m.Agrees setting depth) {id : RuleId} {operand : Rule}
    (hdepth : depth ≤ cx.depth) :
    applyBody setting m (.opt id operand) st cx = .ok (matched, after) cx' ↔
      Executes setting (.body (.opt id operand)) st cx matched after cx' := by
  simp only [applyBody, bind_eq_ok_iff, Prod.exists, hm hdepth]
  constructor
  · rintro ⟨operandMatched, attempt, cx₁, hoperand, h⟩
    cases operandMatched with
    | true =>
      simp only [if_true, bind_eq_ok_iff, check_eq_ok_iff, pure_eq_ok_iff, Prod.mk.injEq,
        ParseState.assign_eq_ok_iff] at h
      obtain ⟨_, _, ⟨⟨hinput, rfl⟩, rfl⟩, ⟨rfl, rfl⟩, rfl⟩ := h
      exact .opt_taken hoperand hinput
    | false =>
      rw [if_neg Bool.false_ne_true, pure_eq_ok_iff, Prod.mk.injEq] at h
      obtain ⟨⟨rfl, rfl⟩, rfl⟩ := h
      exact .opt_left hoperand
  · intro h
    cases h with
    | read hprimitive | unread hprimitive => cases hprimitive
    | opt_taken hoperand hinput =>
      refine ⟨true, _, _, hoperand, ?_⟩
      simp only [if_true, bind_eq_ok_iff, check_eq_ok_iff, pure_eq_ok_iff]
      exact ⟨_, _, ⟨ParseState.assign_eq_ok_iff.2 ⟨hinput, rfl⟩, rfl⟩, rfl, rfl⟩
    | opt_left hoperand => exact ⟨false, _, _, hoperand, pure_eq_ok_iff.2 ⟨rfl, rfl⟩⟩

theorem applyRecursive_eq_ok_iff (hm : m.Agrees setting depth) {id : RuleId} {key : String}
    (hdepth : depth ≤ cx.depth) :
    applyBody setting m (.recursive id key) st cx = .ok (matched, after) cx' ↔
      Executes setting (.body (.recursive id key)) st cx matched after cx' := by
  simp only [applyBody, bind_eq_ok_iff, resolve_eq_ok_iff]
  constructor
  · rintro ⟨target, _, ⟨htarget, rfl⟩, h⟩
    have hdepth₁ : depth ≤ (cx.record (.resolved id target)).depth := hdepth
    exact .recursive htarget ((hm hdepth₁).1 h)
  · intro h
    cases h with
    | read hprimitive | unread hprimitive => cases hprimitive
    | @recursive _ _ target _ _ _ _ _ htarget happ =>
      have hdepth₁ : depth ≤ (cx.record (.resolved id target)).depth := hdepth
      exact ⟨target, _, ⟨htarget, rfl⟩, (hm hdepth₁).2 happ⟩

theorem applyBody_eq_ok_iff (hm : m.Agrees setting depth) {rule : Rule}
    (hdepth : depth ≤ cx.depth) :
    applyBody setting m rule st cx = .ok (matched, after) cx' ↔
      Executes setting (.body rule) st cx matched after cx' := by
  cases rule with
  | char | literal | regex | endOfInput => exact applyPrimitive_eq_ok_iff rfl
  | seq id rules =>
    rw [applyBody, applySeq_eq_ok_iff hm hdepth]
    refine ⟨.seq, fun h => ?_⟩
    cases h with
    | read hprimitive | unread hprimitive => cases hprimitive
    | seq h => exact h
  | choice id rules =>
    rw [applyBody, applyChoice_eq_ok_iff hm hdepth]
    refine ⟨.choice, fun h => ?_⟩
    cases h with
    | read hprimitive | unread hprimitive => cases hprimitive
    | choice h => exact h
  | notAhead id operand => exact applyNotAhead_eq_ok_iff hm hdepth
  | ahead id operand => exact applyAhead_eq_ok_iff hm hdepth
  | zeroOrMore id operand =>
    simp only [applyBody, bind_eq_ok_iff, Prod.exists, applyRepeat_eq_ok_iff hm hdepth,
      pure_eq_ok_iff, Prod.mk.injEq]
    constructor
    · rintro ⟨_, _, _, h, ⟨rfl, rfl⟩, rfl⟩
      exact .zeroOrMore h
    · intro h
      cases h with
      | read hprimitive | unread hprimitive => cases hprimitive
      | zeroOrMore h => exact ⟨_, _, _, h, ⟨rfl, rfl⟩, rfl⟩
  | oneOrMore id operand =>
    rw [applyBody, applyRepeat_eq_ok_iff hm hdepth]
    refine ⟨.oneOrMore, fun h => ?_⟩
    cases h with
    | read hprimitive | unread hprimitive => cases hprimitive
    | oneOrMore h => exact h
  | opt id operand => exact applyOpt_eq_ok_iff hm hdepth
  | node id operand =>
    rw [applyBody]
    exact applyNode_eq_ok_iff hm hdepth
  | recursive id key => exact applyRecursive_eq_ok_iff hm hdepth

end Combinators

/-! ## Applications -/

theorem applyOnce_eq_ok_iff {body : Run (Bool × ParseState)} {rule : Rule} :
    applyOnce setting body rule st cx = .ok (matched, after) cx' ↔
      (∃ entry, cx.remembered? setting.scope rule st.position = some entry ∧
        Replays st entry matched after ∧
        cx' = cx.record (.memoHit rule st.position entry.stop?)) ∨
      cx.remembered? setting.scope rule st.position = none ∧
        ∃ cx₁, body cx = .ok (matched, after) cx₁ ∧
          cx' = cx₁.remember setting.scope rule st.position
            (outcome st.emitted.size matched after) := by
  simp only [applyOnce, bind_eq_ok_iff, get_eq_ok_iff]
  cases hmemo : cx.remembered? setting.scope rule st.position with
  | some entry =>
    constructor
    · rintro ⟨_, _, ⟨rfl, rfl⟩, h⟩
      rw [hmemo] at h
      simp only [bind_eq_ok_iff, record_eq_ok_iff, replay_eq_ok_iff] at h
      obtain ⟨_, _, rfl, hreplay, rfl⟩ := h
      exact .inl ⟨entry, rfl, hreplay, rfl⟩
    · rintro (⟨entry', h, hreplay, rfl⟩ | ⟨h, -⟩)
      · cases h
        refine ⟨cx, cx, ⟨rfl, rfl⟩, ?_⟩
        rw [hmemo]
        simp only [bind_eq_ok_iff, record_eq_ok_iff, replay_eq_ok_iff]
        exact ⟨(), _, rfl, hreplay, rfl⟩
      · cases h
  | none =>
    constructor
    · rintro ⟨_, _, ⟨rfl, rfl⟩, h⟩
      rw [hmemo] at h
      simp only [bind_eq_ok_iff, modify_eq_ok_iff, pure_eq_ok_iff, Prod.exists,
        Prod.mk.injEq] at h
      obtain ⟨_, _, cx₁, hbody, _, _, rfl, ⟨rfl, rfl⟩, rfl⟩ := h
      exact .inr ⟨rfl, cx₁, hbody, rfl⟩
    · rintro (⟨_, h, -⟩ | ⟨-, cx₁, hbody, rfl⟩)
      · cases h
      · refine ⟨cx, cx, ⟨rfl, rfl⟩, ?_⟩
        rw [hmemo]
        simp only [bind_eq_ok_iff, modify_eq_ok_iff, pure_eq_ok_iff, Prod.exists]
        exact ⟨matched, after, cx₁, hbody, (), _, rfl, rfl, rfl⟩

theorem apply_eq_ok_iff_of_refused {rule : Rule} {room : Nat} {cx₁ : Context}
    (henter : cx.enter setting.limits rule st.position = (false, cx₁)) :
    apply setting room rule st cx = .ok (matched, after) cx' ↔
      matched = false ∧ after = st ∧ cx' = cx₁ := by
  rw [apply.eq_def]
  simp only [bind_eq_ok_iff, modifyGet_eq_ok_iff, henter, Prod.mk.injEq]
  constructor
  · rintro ⟨_, _, ⟨rfl, rfl⟩, h⟩
    rw [if_neg Bool.false_ne_true, pure_eq_ok_iff, Prod.mk.injEq] at h
    exact ⟨h.1.1, h.1.2, h.2⟩
  · rintro ⟨rfl, rfl, rfl⟩
    refine ⟨false, cx', ⟨rfl, rfl⟩, ?_⟩
    rw [if_neg Bool.false_ne_true, pure_eq_ok_iff]
    exact ⟨rfl, rfl⟩

theorem apply_eq_ok_iff_of_entered {rule : Rule} {room : Nat} {cx₁ : Context}
    (henter : cx.enter setting.limits rule st.position = (true, cx₁)) :
    apply setting (room + 1) rule st cx = .ok (matched, after) cx' ↔
      ∃ cx₂, applyOnce setting (applyBody setting (apply setting room) rule st) rule st cx₁ =
          .ok (matched, after) cx₂ ∧
        cx' = cx₂.exit rule st.position (if matched then some after.position else none) := by
  rw [apply.eq_def]
  simp only [bind_eq_ok_iff, modifyGet_eq_ok_iff, henter, Prod.mk.injEq]
  constructor
  · rintro ⟨_, _, ⟨rfl, rfl⟩, h⟩
    simp only [if_true, bind_eq_ok_iff, modify_eq_ok_iff, pure_eq_ok_iff, Prod.exists,
      Prod.mk.injEq] at h
    obtain ⟨_, _, cx₂, honce, _, _, rfl, ⟨rfl, rfl⟩, rfl⟩ := h
    exact ⟨cx₂, honce, rfl⟩
  · rintro ⟨cx₂, honce, rfl⟩
    refine ⟨true, cx₁, ⟨rfl, rfl⟩, ?_⟩
    simp only [if_true, bind_eq_ok_iff, modify_eq_ok_iff, pure_eq_ok_iff, Prod.exists]
    exact ⟨matched, after, cx₂, honce, (), _, rfl, rfl, rfl⟩

/-- What is replayed ends where it was remembered to end. -/
theorem Replays.stop?_eq {entry : MemoEntry} (h : Replays st entry matched after) :
    (if matched then some after.position else none) = entry.stop? := by
  cases h with
  | failed => rfl
  | matched hseek =>
    rw [if_pos rfl, ParseState.pushAll_eq, (ParseState.seek_eq_ok hseek).2.1]
    rfl

theorem Executes.application_iff_of_refused {rule : Rule} {cx₁ : Context}
    (henter : cx.enter setting.limits rule st.position = (false, cx₁)) :
    Executes setting (.application rule) st cx matched after cx' ↔
      matched = false ∧ after = st ∧ cx' = cx₁ := by
  constructor
  · intro h
    cases h with
    | refused henter' =>
      rw [henter] at henter'
      cases henter'
      exact ⟨rfl, rfl, rfl⟩
    | recalled henter' | evaluated henter' =>
      rw [henter] at henter'
      cases henter'
  · rintro ⟨rfl, rfl, rfl⟩
    exact .refused henter

theorem Executes.application_iff_of_entered {rule : Rule} {cx₁ : Context}
    (henter : cx.enter setting.limits rule st.position = (true, cx₁)) :
    Executes setting (.application rule) st cx matched after cx' ↔
      (∃ entry, cx₁.remembered? setting.scope rule st.position = some entry ∧
        Replays st entry matched after ∧ cx' = cx₁.leaveRecalled rule st entry) ∨
      cx₁.remembered? setting.scope rule st.position = none ∧
        ∃ cx₂, Executes setting (.body rule) st cx₁ matched after cx₂ ∧
          cx' = cx₂.leave setting.scope rule st matched after := by
  constructor
  · intro h
    cases h with
    | refused henter' =>
      rw [henter] at henter'
      cases henter'
    | recalled henter' hmemo hreplay =>
      rw [henter] at henter'
      cases henter'
      exact .inl ⟨_, hmemo, hreplay, rfl⟩
    | evaluated henter' hmemo hbody =>
      rw [henter] at henter'
      cases henter'
      exact .inr ⟨hmemo, _, hbody, rfl⟩
  · rintro (⟨entry, hmemo, hreplay, rfl⟩ | ⟨hmemo, cx₂, hbody, rfl⟩)
    · exact .recalled henter hmemo hreplay
    · exact .evaluated henter hmemo hbody

/-- **The engine computes executions.** There is room enough for an application
where as many may be opened inside it as the recursion limit still allows. -/
theorem apply_eq_ok_iff {rule : Rule} {room : Nat} {st : ParseState} {cx : Context}
    (hroom : setting.limits.recursionLimit.toNat ≤ room + cx.depth) :
    apply setting room rule st cx = .ok (matched, after) cx' ↔
      Executes setting (.application rule) st cx matched after cx' := by
  induction room generalizing rule st cx matched after cx' with
  | zero =>
    rcases henter : cx.enter setting.limits rule st.position with ⟨_ | _, cx₁⟩
    · rw [apply_eq_ok_iff_of_refused henter, Executes.application_iff_of_refused henter]
    · -- an application that may be entered leaves room for itself
      have hlt := Context.depth_lt_of_limitMet?_eq_none (Context.enter_eq_true_iff.1 henter).2.1
      omega
  | succ room ih =>
    rcases henter : cx.enter setting.limits rule st.position with ⟨_ | _, cx₁⟩
    · rw [apply_eq_ok_iff_of_refused henter, Executes.application_iff_of_refused henter]
    · have hagrees : Matcher.Agrees setting cx₁.depth (apply setting room) := by
        intro rule' st' cx₂ matched' after' cx₂' hdepth
        have hdepth₁ : cx₁.depth = cx.depth + 1 := by
          obtain ⟨-, -, rfl⟩ := Context.enter_eq_true_iff.1 henter
          rfl
        exact ih (by omega)
      rw [apply_eq_ok_iff_of_entered henter, Executes.application_iff_of_entered henter]
      simp only [applyOnce_eq_ok_iff, applyBody_eq_ok_iff hagrees (Nat.le_refl _)]
      constructor
      · rintro ⟨_, ⟨entry, hmemo, hreplay, rfl⟩ | ⟨hmemo, cx₂, hbody, rfl⟩, rfl⟩
        · exact .inl ⟨entry, hmemo, hreplay, by rw [hreplay.stop?_eq]; rfl⟩
        · exact .inr ⟨hmemo, cx₂, hbody, rfl⟩
      · rintro (⟨entry, hmemo, hreplay, rfl⟩ | ⟨hmemo, cx₂, hbody, rfl⟩)
        · exact ⟨_, .inl ⟨entry, hmemo, hreplay, rfl⟩, by rw [hreplay.stop?_eq]; rfl⟩
        · exact ⟨_, .inr ⟨hmemo, cx₂, hbody, rfl⟩, rfl⟩

/-- An application comes out in one way. -/
theorem Executes.application_det {rule : Rule} {matched' : Bool} {after' : ParseState}
    {cx'' : Context} (h : Executes setting (.application rule) st cx matched after cx')
    (h' : Executes setting (.application rule) st cx matched' after' cx'') :
    matched' = matched ∧ after' = after ∧ cx'' = cx' := by
  have hroom := Nat.le_add_right setting.limits.recursionLimit.toNat cx.depth
  have happly := (apply_eq_ok_iff hroom).2 h
  rw [(apply_eq_ok_iff hroom).2 h'] at happly
  cases happly
  exact ⟨rfl, rfl, rfl⟩

end Packrat
