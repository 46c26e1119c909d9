import Packrat.Proofs.Interchange

/-!
# Laws of rules

Rules that are put together in another way come out alike, and leave the same record of
what was wanted.

- `Evaluates.seq_flatten`, `Evaluates.choice_flatten`: a sequence inside a sequence is a
  part of it, and so with choices. The wants are the same, one by one.
- `Evaluates.left_factored`, `Evaluates.oneOrMore_unrolled`: where one form evaluates a rule
  twice at an offset and the other one once, the second time adds nothing to the record.
- `Rule.Refactors`: the forms that stand for one another.
- `apply_refactors`: **applied alike, they do the same**, to the state and to the record.
-/

namespace Packrat

variable {scope : Scope} {input : String} {stalls : Prop} {rule : Rule} {rules rest : List Rule}
  {id id' id'' : RuleId} {pos : Nat} {outcome : Outcome} {wants : List Want}

/-! ## Outcomes in a row -/

namespace Outcome

@[simp] theorem after_nil (outcome : Outcome) : outcome.after [] = outcome := by
  cases outcome <;> rfl

theorem after_after (outcome : Outcome) (tokens later : List Token) :
    (outcome.after later).after tokens = outcome.after (tokens ++ later) := by
  cases outcome with
  | none => rfl
  | some found => simp [after]

end Outcome

/-! ## One rule at a time -/

namespace Evaluates

theorem seq_nil_iff : Evaluates scope input stalls (.seq id []) pos outcome wants ↔
    outcome = some (pos, []) ∧ wants = [] := by
  constructor
  · intro h
    cases h with
    | read hprimitive | unread hprimitive => cases hprimitive
    | seq_nil => exact ⟨rfl, rfl⟩
  · rintro ⟨rfl, rfl⟩
    exact .seq_nil

/-- A sequence fails with its first rule, or goes on behind it. -/
theorem seq_cons_iff : Evaluates scope input stalls (.seq id (rule :: rest)) pos outcome wants ↔
    outcome = none ∧ Evaluates scope input stalls rule pos none wants ∨
      ∃ mid tokens more first later,
        Evaluates scope input stalls rule pos (some (mid, tokens)) first ∧
          Evaluates scope input stalls (.seq id rest) mid more later ∧
            outcome = more.after tokens ∧ wants = first ++ later := by
  constructor
  · intro h
    cases h with
    | read hprimitive | unread hprimitive => cases hprimitive
    | seq_failed hhead => exact .inl ⟨rfl, hhead⟩
    | seq_next hhead hrest => exact .inr ⟨_, _, _, _, _, hhead, hrest, rfl, rfl⟩
  · rintro (⟨rfl, hhead⟩ | ⟨mid, tokens, more, first, later, hhead, hrest, rfl, rfl⟩)
    · exact .seq_failed hhead
    · exact .seq_next hhead hrest

theorem choice_nil_iff : Evaluates scope input stalls (.choice id []) pos outcome wants ↔
    outcome = none ∧ wants = [] := by
  constructor
  · intro h
    cases h with
    | read hprimitive | unread hprimitive => cases hprimitive
    | choice_nil => exact ⟨rfl, rfl⟩
  · rintro ⟨rfl, rfl⟩
    exact .choice_nil

/-- A choice comes out as its first rule, unless this fails. -/
theorem choice_cons_iff :
    Evaluates scope input stalls (.choice id (rule :: rest)) pos outcome wants ↔
      outcome ≠ none ∧ Evaluates scope input stalls rule pos outcome wants ∨
        ∃ first later, Evaluates scope input stalls rule pos none first ∧
          Evaluates scope input stalls (.choice id rest) pos outcome later ∧
            wants = first ++ later := by
  constructor
  · intro h
    cases h with
    | read hprimitive | unread hprimitive => cases hprimitive
    | choice_first hhead => exact .inl ⟨Option.some_ne_none _, hhead⟩
    | choice_next hhead hrest => exact .inr ⟨_, _, hhead, hrest, rfl⟩
  · rintro (⟨hsome, hhead⟩ | ⟨first, later, hhead, hrest, rfl⟩)
    · obtain ⟨⟨stop, tokens⟩, rfl⟩ := Option.ne_none_iff_exists'.1 hsome
      exact .choice_first hhead
    · exact .choice_next hhead hrest

theorem seq_pair_iff {rule' : Rule} :
    Evaluates scope input stalls (.seq id [rule, rule']) pos outcome wants ↔
      outcome = none ∧ Evaluates scope input stalls rule pos none wants ∨
        ∃ mid tokens more first later,
          Evaluates scope input stalls rule pos (some (mid, tokens)) first ∧
            Evaluates scope input stalls rule' mid more later ∧
              outcome = more.after tokens ∧ wants = first ++ later := by
  rw [seq_cons_iff]
  simp only [seq_singleton_iff]

theorem choice_pair_iff {rule' : Rule} :
    Evaluates scope input stalls (.choice id [rule, rule']) pos outcome wants ↔
      outcome ≠ none ∧ Evaluates scope input stalls rule pos outcome wants ∨
        ∃ first later, Evaluates scope input stalls rule pos none first ∧
          Evaluates scope input stalls rule' pos outcome later ∧ wants = first ++ later := by
  rw [choice_cons_iff]
  simp only [choice_singleton_iff]

/-! ## Identities -/

/-- The identity of a sequence has no influence on its outcome. -/
theorem seq_id (h : Evaluates scope input stalls (.seq id rules) pos outcome wants) :
    Evaluates scope input stalls (.seq id' rules) pos outcome wants := by
  induction rules generalizing pos outcome wants with
  | nil => exact seq_nil_iff.2 (seq_nil_iff.1 h)
  | cons rule rest ih =>
    rcases seq_cons_iff.1 h with ⟨rfl, hhead⟩ | ⟨_, _, _, _, _, hhead, hrest, rfl, rfl⟩
    · exact .seq_failed hhead
    · exact .seq_next hhead (ih hrest)

theorem choice_id (h : Evaluates scope input stalls (.choice id rules) pos outcome wants) :
    Evaluates scope input stalls (.choice id' rules) pos outcome wants := by
  induction rules generalizing wants with
  | nil => exact choice_nil_iff.2 (choice_nil_iff.1 h)
  | cons rule rest ih =>
    rcases choice_cons_iff.1 h with hfirst | ⟨first, later, hhead, hrest, rfl⟩
    · exact choice_cons_iff.2 (.inl hfirst)
    · exact .choice_next hhead (ih hrest)

theorem zeroOrMore_id (h : Evaluates scope input stalls (.zeroOrMore id rule) pos outcome wants) :
    Evaluates scope input stalls (.zeroOrMore id' rule) pos outcome wants := by
  generalize hrule : Rule.zeroOrMore id rule = repetition at h
  induction h with
  | read hprimitive | unread hprimitive =>
    subst hrule
    cases hprimitive
  | zeroOrMore_ended hoperand =>
    cases hrule
    exact .zeroOrMore_ended hoperand
  | zeroOrMore_next hoperand hlt _ _ ih =>
    cases hrule
    exact .zeroOrMore_next hoperand hlt (ih rfl)
  | zeroOrMore_stalled hstalls hoperand hnot =>
    cases hrule
    exact .zeroOrMore_stalled hstalls hoperand hnot
  | _ => cases hrule

/-! ## Nesting -/

/-- Where some rules in a row fail, they fail whatever follows them. -/
theorem seq_append_failed (h : Evaluates scope input stalls (.seq id rules) pos none wants) :
    Evaluates scope input stalls (.seq id' (rules ++ rest)) pos none wants := by
  induction rules generalizing pos wants with
  | nil => cases (seq_nil_iff.1 h).1
  | cons rule rules ih =>
    rcases seq_cons_iff.1 h with ⟨-, hhead⟩ | ⟨mid, tokens, more, _, _, hhead, hrest, hnone, rfl⟩
    · exact .seq_failed hhead
    · obtain rfl : more = none := Option.map_eq_none_iff.1 hnone.symm
      exact (Evaluates.seq_next hhead (ih hrest) :)

/-- Where some rules in a row match, what follows them goes on behind them. -/
theorem seq_append {mid : Nat} {tokens : List Token} {wants' : List Want}
    (h : Evaluates scope input stalls (.seq id rules) pos (some (mid, tokens)) wants)
    (hrest : Evaluates scope input stalls (.seq id' rest) mid outcome wants') :
    Evaluates scope input stalls (.seq id'' (rules ++ rest)) pos (outcome.after tokens)
      (wants ++ wants') := by
  induction rules generalizing pos tokens wants with
  | nil =>
    obtain ⟨heq, rfl⟩ := seq_nil_iff.1 h
    cases heq
    simpa using hrest.seq_id
  | cons rule rules ih =>
    rcases seq_cons_iff.1 h with ⟨hnone, -⟩ | ⟨mid', first, _, _, _, hhead, hmore, hsome, rfl⟩
    · cases hnone
    · obtain ⟨more, rfl, rfl⟩ := Outcome.after_eq_some hsome.symm
      rw [← Outcome.after_after, List.append_assoc]
      exact .seq_next hhead (ih hmore)

/-- A sequence inside a sequence is a part of it. -/
theorem seq_flatten
    (h : Evaluates scope input stalls (.seq id (.seq id' rules :: rest)) pos outcome wants) :
    Evaluates scope input stalls (.seq id'' (rules ++ rest)) pos outcome wants := by
  rcases seq_cons_iff.1 h with ⟨rfl, hinner⟩ | ⟨_, _, _, _, _, hinner, hrest, rfl, rfl⟩
  · exact hinner.seq_append_failed
  · exact hinner.seq_append hrest

/-- The first alternative that matches is taken, whatever follows it. -/
theorem choice_append_matched
    (h : Evaluates scope input stalls (.choice id rules) pos outcome wants)
    (hsome : outcome ≠ none) :
    Evaluates scope input stalls (.choice id' (rules ++ rest)) pos outcome wants := by
  induction rules generalizing wants with
  | nil => exact absurd (choice_nil_iff.1 h).1 hsome
  | cons rule rules ih =>
    rcases choice_cons_iff.1 h with ⟨-, hhead⟩ | ⟨_, _, hhead, hrest, rfl⟩
    · exact choice_cons_iff.2 (.inl ⟨hsome, hhead⟩)
    · exact .choice_next hhead (ih hrest)

/-- Where some alternatives fail, those behind them decide. -/
theorem choice_append {wants' : List Want}
    (h : Evaluates scope input stalls (.choice id rules) pos none wants)
    (hrest : Evaluates scope input stalls (.choice id' rest) pos outcome wants') :
    Evaluates scope input stalls (.choice id'' (rules ++ rest)) pos outcome (wants ++ wants') := by
  induction rules generalizing wants with
  | nil =>
    obtain ⟨-, rfl⟩ := choice_nil_iff.1 h
    exact hrest.choice_id
  | cons rule rules ih =>
    rcases choice_cons_iff.1 h with ⟨hsome, -⟩ | ⟨_, _, hhead, hmore, rfl⟩
    · exact absurd rfl hsome
    · rw [List.append_assoc]
      exact .choice_next hhead (ih hmore)

/-- A choice inside a choice is a part of it. -/
theorem choice_flatten
    (h : Evaluates scope input stalls (.choice id (.choice id' rules :: rest)) pos outcome wants) :
    Evaluates scope input stalls (.choice id'' (rules ++ rest)) pos outcome wants := by
  rcases choice_cons_iff.1 h with ⟨hsome, hinner⟩ | ⟨_, _, hinner, hrest, rfl⟩
  · exact hinner.choice_append_matched hsome
  · exact hinner.choice_append hrest

end Evaluates

/-! ## Rules that come out alike -/

namespace Rule

/-- The rule comes out as the other one does, and what it wants makes the same of every
record. -/
def ComesOutAs (scope : Scope) (input : String) (rule other : Rule) : Prop :=
  ∀ ⦃stalls : Prop⦄ ⦃pos : Nat⦄ ⦃outcome : Outcome⦄ ⦃wants : List Want⦄,
    Evaluates scope input stalls rule pos outcome wants →
      ∃ wants', Evaluates scope input stalls other pos outcome wants' ∧
        ∀ f : Failure, f.noteAll wants' = f.noteAll wants

namespace ComesOutAs

variable {other a b c r : Rule} {id₁ id₂ id₃ id₄ id₅ : RuleId}

theorem of_imp (h : ∀ {stalls pos outcome wants},
      Evaluates scope input stalls rule pos outcome wants →
        Evaluates scope input stalls other pos outcome wants) :
    rule.ComesOutAs scope input other :=
  fun _ _ _ _ heval => ⟨_, h heval, fun _ => rfl⟩

theorem refl (rule : Rule) : rule.ComesOutAs scope input rule := of_imp fun h => h

theorem seq_left : ComesOutAs scope input (.seq id₁ [.seq id₂ [a, b], c]) (.seq 0 [a, b, c]) :=
  of_imp .seq_flatten

theorem seq_right : ComesOutAs scope input (.seq id₁ [a, .seq id₂ [b, c]]) (.seq 0 [a, b, c]) := by
  refine of_imp fun h => ?_
  rcases Evaluates.seq_cons_iff.1 h with ⟨rfl, hhead⟩ | ⟨_, _, _, _, _, hhead, hrest, rfl, rfl⟩
  · exact .seq_failed hhead
  · exact .seq_next hhead hrest.seq_flatten

theorem seq_flat : ComesOutAs scope input (.seq id₁ [a, b, c]) (.seq 0 [a, b, c]) := of_imp .seq_id

theorem choice_left :
    ComesOutAs scope input (.choice id₁ [.choice id₂ [a, b], c]) (.choice 0 [a, b, c]) :=
  of_imp .choice_flatten

theorem choice_right :
    ComesOutAs scope input (.choice id₁ [a, .choice id₂ [b, c]]) (.choice 0 [a, b, c]) := by
  refine of_imp fun h => ?_
  rcases Evaluates.choice_cons_iff.1 h with hfirst | ⟨_, _, hhead, hrest, rfl⟩
  · exact Evaluates.choice_cons_iff.2 (.inl hfirst)
  · exact .choice_next hhead hrest.choice_flatten

theorem choice_flat : ComesOutAs scope input (.choice id₁ [a, b, c]) (.choice 0 [a, b, c]) :=
  of_imp .choice_id

/-- What was wanted once may be wanted again, with anything between. -/
theorem noteAll_again (f : Failure) (wants between : List Want) :
    f.noteAll (wants ++ between ++ wants) = f.noteAll (wants ++ between) := by
  rw [Failure.noteAll_append]
  exact Failure.noteAll_eq_self fun want hmem => Failure.knows_noteAll (List.mem_append_left _ hmem)

/-- **Left factoring.** If the first sequence fails behind its common part, the second one
evaluates this part again, and all that it wants is known by then. -/
theorem factored :
    ComesOutAs scope input (.choice id₁ [.seq id₂ [a, b], .seq id₃ [a, c]])
      (.seq id₄ [a, .choice id₅ [b, c]]) := by
  intro stalls pos outcome wants h
  rcases Evaluates.choice_pair_iff.1 h with ⟨hsome, hfirst⟩ | ⟨_, _, hfirst, hsecond, rfl⟩
  · rcases Evaluates.seq_pair_iff.1 hfirst with ⟨rfl, -⟩ | ⟨_, _, more, _, _, ha, hb, rfl, rfl⟩
    · exact absurd rfl hsome
    · have hmore : more ≠ none := fun hnone => hsome (by rw [hnone]; rfl)
      exact ⟨_, Evaluates.seq_pair_iff.2 (.inr ⟨_, _, _, _, _, ha,
        Evaluates.choice_pair_iff.2 (.inl ⟨hmore, hb⟩), rfl, rfl⟩), fun _ => rfl⟩
  · rcases Evaluates.seq_pair_iff.1 hfirst with
      ⟨-, ha⟩ | ⟨_, _, more, first, second, ha, hb, hnone, rfl⟩
    · -- the common part fails, and fails again
      rcases Evaluates.seq_pair_iff.1 hsecond with ⟨rfl, ha'⟩ | ⟨_, _, _, _, _, ha', -⟩
      · obtain ⟨-, rfl⟩ := ha.det ha'
        exact ⟨_, .seq_failed ha, fun f => by simpa using (noteAll_again f _ []).symm⟩
      · cases (ha.det ha').1
    · obtain rfl : more = none := Option.map_eq_none_iff.1 hnone.symm
      rcases Evaluates.seq_pair_iff.1 hsecond with ⟨-, ha'⟩ | ⟨_, _, _, _, third, ha', hc, rfl, rfl⟩
      · cases (ha.det ha').1
      · -- the common part matches, and matches again
        obtain ⟨heq, rfl⟩ := ha.det ha'
        cases heq
        refine ⟨_, Evaluates.seq_pair_iff.2 (.inr ⟨_, _, _, _, _, ha,
          Evaluates.choice_pair_iff.2 (.inr ⟨_, _, hb, hc, rfl⟩), rfl, rfl⟩), fun f => ?_⟩
        calc f.noteAll (first ++ (second ++ third))
            = (f.noteAll (first ++ second)).noteAll third := by
              rw [← List.append_assoc, Failure.noteAll_append]
          _ = f.noteAll (first ++ second ++ (first ++ third)) := by
              rw [← List.append_assoc (first ++ second), Failure.noteAll_append _ third,
                noteAll_again]

/-- A repetition with one match required is that match and a repetition behind it. If it reads
nothing, it is tried again there, which is dropped with its tokens and wants nothing new. -/
theorem oneOrMore :
    ComesOutAs scope input (.oneOrMore id₁ r) (.seq id₂ [r, .zeroOrMore id₃ r]) := by
  intro stalls pos outcome wants h
  cases h with
  | read hprimitive | unread hprimitive => cases hprimitive
  | oneOrMore_failed hoperand => exact ⟨_, .seq_failed hoperand, fun _ => rfl⟩
  | oneOrMore_next hoperand _ hmore =>
    exact ⟨_, Evaluates.seq_pair_iff.2 (.inr ⟨_, _, _, _, _, hoperand,
      hmore.zeroOrMore_id, rfl, rfl⟩), fun _ => rfl⟩
  | @oneOrMore_stalled _ _ _ stop tokens _ hstalls hoperand hnot =>
    obtain rfl : stop = pos := Nat.le_antisymm (Nat.not_lt.1 hnot) (hoperand.le rfl)
    have htokens : some (stop, tokens) = Outcome.after tokens (some (stop, [])) := by
      simp [Outcome.after]
    exact ⟨_, Evaluates.seq_pair_iff.2 (.inr ⟨_, _, _, _, _, hoperand,
      .zeroOrMore_stalled hstalls hoperand hnot, htokens, rfl⟩),
      fun f => by simpa using noteAll_again f wants []⟩

theorem opt : ComesOutAs scope input (.opt id₁ r) (.choice id₂ [r, .seq id₃ []]) := by
  intro stalls pos outcome wants h
  cases h with
  | read hprimitive | unread hprimitive => cases hprimitive
  | opt_taken hoperand => exact ⟨_, .choice_first hoperand, fun _ => rfl⟩
  | opt_left hoperand =>
    exact ⟨_, Evaluates.choice_pair_iff.2 (.inr ⟨_, _, hoperand, .seq_nil, rfl⟩),
      fun f => by rw [List.append_nil]⟩

end ComesOutAs

/-- Forms of one rule, whatever `a`, `b`, `c` and `r` are and whichever identities the
sequences, choices and repetitions have. -/
inductive Refactors : Rule → Rule → Prop where
  | factored {a b c : Rule} {id₁ id₂ id₃ id₄ id₅ : RuleId} :
      Refactors (.choice id₁ [.seq id₂ [a, b], .seq id₃ [a, c]])
        (.seq id₄ [a, .choice id₅ [b, c]])
  | seq_left {a b c : Rule} {id₁ id₂ id₃ : RuleId} :
      Refactors (.seq id₁ [.seq id₂ [a, b], c]) (.seq id₃ [a, b, c])
  | seq_right {a b c : Rule} {id₁ id₂ id₃ : RuleId} :
      Refactors (.seq id₁ [a, .seq id₂ [b, c]]) (.seq id₃ [a, b, c])
  | seq_assoc {a b c : Rule} {id₁ id₂ id₃ id₄ : RuleId} :
      Refactors (.seq id₁ [.seq id₂ [a, b], c]) (.seq id₃ [a, .seq id₄ [b, c]])
  | choice_left {a b c : Rule} {id₁ id₂ id₃ : RuleId} :
      Refactors (.choice id₁ [.choice id₂ [a, b], c]) (.choice id₃ [a, b, c])
  | choice_right {a b c : Rule} {id₁ id₂ id₃ : RuleId} :
      Refactors (.choice id₁ [a, .choice id₂ [b, c]]) (.choice id₃ [a, b, c])
  | choice_assoc {a b c : Rule} {id₁ id₂ id₃ id₄ : RuleId} :
      Refactors (.choice id₁ [.choice id₂ [a, b], c]) (.choice id₃ [a, .choice id₄ [b, c]])
  | oneOrMore {r : Rule} {id₁ id₂ id₃ : RuleId} :
      Refactors (.oneOrMore id₁ r) (.seq id₂ [r, .zeroOrMore id₃ r])
  | opt {r : Rule} {id₁ id₂ id₃ : RuleId} :
      Refactors (.opt id₁ r) (.choice id₂ [r, .seq id₃ []])

/-- Both forms come out as one rule does. -/
theorem Refactors.exists_common {rule' : Rule} (h : rule.Refactors rule') :
    ∃ common, rule.ComesOutAs scope input common ∧ rule'.ComesOutAs scope input common := by
  cases h with
  | factored => exact ⟨_, .factored, .refl _⟩
  | seq_left => exact ⟨_, .seq_left, .seq_flat⟩
  | seq_right => exact ⟨_, .seq_right, .seq_flat⟩
  | seq_assoc => exact ⟨_, .seq_left, .seq_right⟩
  | choice_left => exact ⟨_, .choice_left, .choice_flat⟩
  | choice_right => exact ⟨_, .choice_right, .choice_flat⟩
  | choice_assoc => exact ⟨_, .choice_left, .choice_right⟩
  | oneOrMore => exact ⟨_, .oneOrMore, .refl _⟩
  | opt => exact ⟨_, .opt, .refl _⟩

end Rule

/-! ## Applications -/

/-- A run over rules below `root` may come to apply the rule in this context. -/
structure Applicable (setting : Setting) (root : Rule) (room : Nat) (rule : Rule)
    (st : ParseState) (cx : Context) : Prop where
  resolves : setting.scope.Resolves root
  identifies : setting.scope.Identifies root
  below : root.Reaches setting.scope rule
  reachable : cx.Reachable setting root st.input
  room : setting.limits.recursionLimit.toNat ≤ room + cx.depth

/-- A run over a root begins with an application of it. -/
theorem Applicable.start {root : Rule} (hresolves : scope.Resolves root)
    (hidentifies : scope.Identifies root) (memoize : Bool) (input : String) :
    Applicable ⟨scope, .standard⟩ root 1024 root (.start input) (.start memoize) where
  resolves := hresolves
  identifies := hidentifies
  below := .refl
  reachable := .start memoize
  room := Nat.le_refl 1024

/-- An application that is not abandoned has the outcome of its rule, restores the state if it
fails, and outside lookaheads it has noted what the rule wants. -/
theorem Applicable.exists_apply {setting : Setting} {root : Rule} {room : Nat} {st : ParseState}
    {cx : Context} (h : Applicable setting root room rule st cx) :
    ∃ matched after cx', apply setting room rule st cx = .ok (matched, after) cx' ∧
      (matched = false → after = st) ∧ cx'.quiet = cx.quiet ∧
      (cx.quiet = 0 → cx'.fatal = none → ∃ outcome wants,
        Evaluates setting.scope st.input True rule st.position outcome wants ∧
          outcome.Realized st matched after ∧ cx'.failure = cx.failure.noteAll wants) := by
  obtain ⟨matched, after, cx', happly, hexec⟩ :=
    exists_apply_eq_ok h.resolves h.below h.reachable.memoLaid h.room
  have hcontract := (hexec.contract trivial h.reachable.memoLaid).2
  refine ⟨matched, after, cx', happly, hcontract.of_failed, hexec.frame.quiet_eq,
    fun hquiet hfatal => ?_⟩
  have hsound := (h.reachable.sound h.identifies).mono fun _ => True.intro
  obtain ⟨outcome, wants, heval, hreal, hfailure⟩ := (hexec.adequate h.identifies h.below trivial
    h.reachable.memoLaid hsound fun _ => True.intro).2 hfatal
  rw [Context.noted, if_pos hquiet] at hfailure
  exact ⟨outcome, wants, heval 0, hreal, hfailure⟩

/-- One outcome makes one state of another. -/
theorem Outcome.Realized.unique {st after after' : ParseState} {matched matched' : Bool}
    (h : outcome.Realized st matched after) (h' : outcome.Realized st matched' after')
    (hfailed : matched = false → after = st) (hfailed' : matched' = false → after' = st) :
    matched' = matched ∧ after' = after := by
  cases h with
  | failed =>
    cases h'
    exact ⟨rfl, (hfailed' rfl).trans (hfailed rfl).symm⟩
  | matched hext =>
    obtain ⟨rfl, hstop, hext'⟩ := h'.of_some
    exact ⟨rfl, hext'.unique hext hstop⟩

/-- **Rules may be refactored.** Two forms of a rule, applied to one state with one record of
what was wanted, outside lookaheads and neither of them abandoned, come out alike: they leave
the same state, with the same tokens, and the same record. The contexts may differ in all
else, and what they remember may come from any part of the rules. -/
theorem apply_refactors {setting setting' : Setting} {root root' rule' : Rule} {room room' : Nat}
    {st : ParseState} {cx cx' : Context} (hforms : rule.Refactors rule')
    (hscope : setting'.scope = setting.scope)
    (happlicable : Applicable setting root room rule st cx)
    (happlicable' : Applicable setting' root' room' rule' st cx')
    (hquiet : cx.quiet = 0) (hquiet' : cx'.quiet = 0) (hfailure : cx'.failure = cx.failure) :
    ∃ matched after cx₁ matched' after' cx₁',
      apply setting room rule st cx = .ok (matched, after) cx₁ ∧
        apply setting' room' rule' st cx' = .ok (matched', after') cx₁' ∧
          (cx₁.fatal = none → cx₁'.fatal = none →
            matched' = matched ∧ after' = after ∧ cx₁'.failure = cx₁.failure) := by
  obtain ⟨matched, after, cx₁, happly, hfailed, -, hmeans⟩ := happlicable.exists_apply
  obtain ⟨matched', after', cx₁', happly', hfailed', -, hmeans'⟩ := happlicable'.exists_apply
  refine ⟨_, _, _, _, _, _, happly, happly', fun hfatal hfatal' => ?_⟩
  obtain ⟨outcome, wants, heval, hreal, hnoted⟩ := hmeans hquiet hfatal
  obtain ⟨outcome', wants', heval', hreal', hnoted'⟩ := hmeans' hquiet' hfatal'
  rw [hscope] at heval'
  obtain ⟨common, hcommon, hcommon'⟩ :
      ∃ common, rule.ComesOutAs setting.scope st.input common ∧
        rule'.ComesOutAs setting.scope st.input common := hforms.exists_common
  obtain ⟨_, hevalc, hsame⟩ := hcommon heval
  obtain ⟨_, hevalc', hsame'⟩ := hcommon' heval'
  obtain ⟨rfl, rfl⟩ := hevalc.det hevalc'
  obtain ⟨rfl, rfl⟩ := hreal.unique hreal' hfailed hfailed'
  refine ⟨rfl, rfl, ?_⟩
  rw [hnoted', hnoted, hfailure, ← hsame', hsame]

/-! ## A common prefix -/

namespace Prefixed

/-- The letter that both alternatives begin with. -/
def first : Rule := .node 0 (.literal 1 "é")

/-- Both alternatives in full. -/
def spelled : Rule :=
  .choice 2 [.seq 3 [first, .literal 4 "a"], .seq 5 [first, .literal 6 "b"]]

/-- The alternatives after what they have in common. -/
def factored : Rule := .seq 7 [first, .choice 8 [.literal 4 "a", .literal 6 "b"]]

/-- All rules of the longer form. -/
def spelledRules : List Rule :=
  [spelled, .seq 3 [first, .literal 4 "a"], .seq 5 [first, .literal 6 "b"], first, .literal 1 "é",
    .literal 4 "a", .literal 6 "b"]

/-- All rules of the shorter form. -/
def factoredRules : List Rule :=
  [factored, first, .choice 8 [.literal 4 "a", .literal 6 "b"], .literal 1 "é", .literal 4 "a",
    .literal 6 "b"]

theorem closes_spelled : Scope.empty.Closes spelledRules where
  operand_mem := by simp [spelledRules, spelled, first, Rule.operands]
  target_mem := by simp [Scope.empty]

theorem closes_factored : Scope.empty.Closes factoredRules where
  operand_mem := by simp [factoredRules, factored, first, Rule.operands]
  target_mem := by simp [Scope.empty]

/-- An application of this rule ends well and is not abandoned. -/
def goesOn (rule : Rule) (memoize : Bool) (input : String) : Bool :=
  match apply ⟨.empty, .standard⟩ 1024 rule (.start input) (.start memoize) with
  | .ok _ cx => cx.fatal.isNone
  | .error .. => false

theorem applicable {rules : List Rule} {rule : Rule} (hcloses : Scope.empty.Closes rules)
    (hmem : rule ∈ rules) (hids : (rules.map Rule.id).Nodup)
    (hdirect : ∀ id key, .recursive id key ∉ rules) (memoize : Bool) (input : String) :
    Applicable ⟨.empty, .standard⟩ rule 1024 rule (.start input) (.start memoize) :=
  .start (hcloses.resolves hmem fun id key h => absurd h (hdirect id key))
    (hcloses.identifies hmem hids) memoize input

end Prefixed

open Prefixed in
/-- With memoization or without it, neither letter is found, and both forms say so. -/
theorem apply_refactors_prefixed :
    ∃ matched after cx₁ cx₁',
      apply ⟨.empty, .standard⟩ 1024 spelled (.start "éc") (.start true) =
          .ok (matched, after) cx₁ ∧
        apply ⟨.empty, .standard⟩ 1024 factored (.start "éc") (.start false) =
            .ok (matched, after) cx₁' ∧
          cx₁'.failure = cx₁.failure := by
  have hspelled : goesOn spelled true "éc" = true := by decide +kernel
  have hfactored : goesOn factored false "éc" = true := by decide +kernel
  have hforms : spelled.Refactors factored := .factored
  obtain ⟨matched, after, cx₁, matched', after', cx₁', happly, happly', hsame⟩ :=
    apply_refactors hforms rfl
      (applicable closes_spelled List.mem_cons_self (by decide)
        (by simp [spelledRules, spelled, first]) true "éc")
      (applicable closes_factored List.mem_cons_self (by decide)
        (by simp [factoredRules, factored, first]) false "éc") rfl rfl rfl
  rw [goesOn, happly] at hspelled
  rw [goesOn, happly'] at hfactored
  obtain ⟨rfl, rfl, hfailure⟩ :=
    hsame (Option.isNone_iff_eq_none.1 hspelled) (Option.isNone_iff_eq_none.1 hfactored)
  exact ⟨_, _, _, _, happly, happly', hfailure⟩

end Packrat
