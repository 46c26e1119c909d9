import Packrat.Proofs.Reachable

/-!
# What an application does

The contract and the adequacy of executions, as statements about `apply` in any
state and context that a run may come to.

- `apply_contract`: failure restores the state, success extends it, and the
  outcome is a function of rule, input and offset.
- `apply_derives`: outcomes are those of parsing expressions. The guard against
  repetitions that stall takes no outcome away, and adds none in a run in which
  nothing stalls.
-/

namespace Packrat

variable {setting : Setting} {root rule : Rule} {st after : ParseState} {cx cx' : Context}
  {matched : Bool} {room : Nat}

/-- An application that is not abandoned comes out as its rule evaluates. -/
theorem exists_evaluates (hidentifies : setting.scope.Identifies root)
    (hrule : root.Reaches setting.scope rule) (hcx : cx.Reachable setting root st.input)
    (hroom : setting.limits.recursionLimit.toNat ≤ room + cx.depth)
    (happly : apply setting room rule st cx = .ok (matched, after) cx')
    (hfatal : cx'.fatal = none) :
    ∃ outcome wants,
      Evaluates setting.scope st.input cx'.HasStalled rule st.position outcome wants ∧
        outcome.Realized st matched after := by
  have hexec := (apply_eq_ok_iff hroom).1 happly
  have hsound := (hcx.sound hidentifies).mono hexec.frame.hasStalled
  obtain ⟨outcome, wants, heval, hreal, -⟩ :=
    (hexec.adequate hidentifies hrule trivial hcx.memoLaid hsound fun h => h).2 hfatal
  exact ⟨outcome, wants, heval 0, hreal⟩

/-! ## The contract -/

/-- **The contract of applications.** An application ends well. Failure, abandoned
or not, leaves the state as it was; success moves the cursor of the same input
ahead and emits tokens that lie in order where it has read. Two applications of a
rule at one offset of one input, neither of them abandoned, come out alike, however
much the tokens emitted before and the contexts differ. `room` is what the
recursion limit leaves, as it is in every run. -/
theorem apply_contract (setting : Setting) (st : ParseState) (room : Nat)
    (hresolves : setting.scope.Resolves root)
    (hidentifies : setting.scope.Identifies root) (hrule : root.Reaches setting.scope rule)
    (hcx : cx.Reachable setting root st.input)
    (hroom : setting.limits.recursionLimit.toNat ≤ room + cx.depth) :
    ∃ matched after cx', apply setting room rule st cx = .ok (matched, after) cx' ∧
      (matched = false → after = st) ∧
      (matched = true → ∃ tokens, after.input = st.input ∧ st.position ≤ after.position ∧
        after.emitted.toList = st.emitted.toList ++ tokens ∧
        after.emitted.since st.emitted.size = tokens ∧
        Token.Ordered st.input st.position tokens after.position) ∧
      (cx'.fatal = none → ∀ (setting₂ : Setting) (room₂ : Nat) (st₂ after₂ : ParseState)
        (cx₂ cx₂' : Context) (matched₂ : Bool),
        setting₂.scope = setting.scope → st₂.input = st.input → st₂.position = st.position →
        cx₂.Reachable setting₂ root st₂.input →
        setting₂.limits.recursionLimit.toNat ≤ room₂ + cx₂.depth →
        apply setting₂ room₂ rule st₂ cx₂ = .ok (matched₂, after₂) cx₂' → cx₂'.fatal = none →
        Apply.outcome st₂.emitted.size matched₂ after₂ =
          Apply.outcome st.emitted.size matched after) := by
  obtain ⟨matched, after, cx', happly, hexec⟩ :=
    exists_apply_eq_ok hresolves hrule hcx.memoLaid hroom
  have hcontract := (hexec.contract trivial hcx.memoLaid).2
  refine ⟨matched, after, cx', happly, hcontract.of_failed, fun hmatched => ?_, fun hfatal => ?_⟩
  · obtain ⟨tokens, hext⟩ := hcontract.of_matched hmatched
    refine ⟨tokens, hext.input_eq, hext.position_le, ?_, hext.since_eq, hext.ordered⟩
    rw [hext.emitted_eq, TokenLog.toList_extend]
  · intro setting₂ room₂ st₂ after₂ cx₂ cx₂' matched₂ hscope hinput hpos hcx₂ hroom₂ happly₂ hfatal₂
    obtain ⟨outcome, wants, heval, hreal⟩ :=
      exists_evaluates hidentifies hrule hcx hroom happly hfatal
    obtain ⟨outcome₂, wants₂, heval₂, hreal₂⟩ := exists_evaluates (hscope ▸ hidentifies)
      (hscope ▸ hrule) hcx₂ hroom₂ happly₂ hfatal₂
    rw [hscope, hinput, hpos] at heval₂
    have hsame : outcome₂ = outcome :=
      ((heval₂.mono fun _ => trivial).det (heval.mono fun _ => trivial)).1
    rw [hreal₂.entry_eq, hreal.entry_eq, hsame]

/-- A quotation comes out in a lookahead, after another token, as it does at first. -/
theorem apply_contract_quotation :
    ∃ matched after cx',
      apply ⟨Quotation.scope, .standard⟩ 1024 Quotation.text (.start "«é»") (.start false) =
        .ok (matched, after) cx' ∧
      (matched = false → after = .start "«é»") ∧
      ∀ (token : Token) (after₂ : ParseState) (cx₂ : Context) (matched₂ : Bool),
        apply ⟨Quotation.scope, .standard⟩ 1024 Quotation.text
          ((ParseState.start "«é»").push token) (Context.start true).openLookahead =
            .ok (matched₂, after₂) cx₂ → cx₂.fatal = none →
        Apply.outcome 1 matched₂ after₂ = Apply.outcome 0 matched after := by
  obtain ⟨matched, after, cx', happly, hfailed, -, hsame⟩ :=
    apply_contract ⟨Quotation.scope, .standard⟩ (.start "«é»") 1024
      Quotation.resolves Quotation.identifies .refl (.start false) (by decide)
  have hgoing : (match apply ⟨Quotation.scope, .standard⟩ 1024 Quotation.text (.start "«é»")
        (.start false) with
      | .ok _ cx' => cx'.fatal.isNone
      | .error .. => false) = true := by decide +kernel
  rw [happly] at hgoing
  refine ⟨matched, after, cx', happly, hfailed, fun token after₂ cx₂ matched₂ happly₂ hfatal₂ => ?_⟩
  have hroom : Limits.standard.recursionLimit.toNat ≤
      1024 + (Context.start true).openLookahead.depth := by decide
  exact hsame (Option.isNone_iff_eq_none.1 hgoing) ⟨Quotation.scope, .standard⟩ 1024
    ((ParseState.start "«é»").push token) after₂ (Context.start true).openLookahead cx₂ matched₂
    rfl rfl rfl (.lookahead (.start true)) hroom happly₂ hfatal₂

/-! ## The meaning -/

/-- **Applications compute parsing expressions.** Where a rule has an outcome as a
parsing expression, an application that is not abandoned comes out so; and unless
a repetition has stalled, the outcome of an application is the one that its rule
has as a parsing expression. -/
theorem apply_derives (setting : Setting) (st : ParseState) (room : Nat)
    (hresolves : setting.scope.Resolves root)
    (hidentifies : setting.scope.Identifies root) (hrule : root.Reaches setting.scope rule)
    (hcx : cx.Reachable setting root st.input)
    (hroom : setting.limits.recursionLimit.toNat ≤ room + cx.depth) :
    ∃ matched after cx', apply setting room rule st cx = .ok (matched, after) cx' ∧
      (cx'.fatal = none →
        (∀ outcome, Derives setting.scope st.input rule st.position outcome →
          outcome.Realized st matched after) ∧
        (¬cx'.HasStalled → ∃ outcome,
          Derives setting.scope st.input rule st.position outcome ∧
            outcome.Realized st matched after)) := by
  obtain ⟨matched, after, cx', happly, -⟩ :=
    exists_apply_eq_ok hresolves hrule hcx.memoLaid hroom
  refine ⟨matched, after, cx', happly, fun hfatal => ?_⟩
  obtain ⟨outcome, wants, heval, hreal⟩ :=
    exists_evaluates hidentifies hrule hcx hroom happly hfatal
  refine ⟨fun outcome' hderives => ?_, fun hstalled => ⟨outcome, ?_, hreal⟩⟩
  · obtain ⟨wants', heval'⟩ := hderives.evaluates
    have hsame : outcome' = outcome := ((heval'.mono False.elim).det heval).1
    rwa [hsame]
  · exact (heval.mono hstalled).derives

/-- A letter that goes on, after the quotation has failed. -/
theorem apply_derives_dotted :
    ∃ after cx', apply ⟨Quotation.scope, .standard⟩ 1024 Quotation.text (.start "é…")
        (.start false) = .ok (true, after) cx' ∧ after.position = 5 ∧
      after.emitted.toList = [⟨"Letter", "é…", ⟨0, 2⟩, []⟩] := by
  have hquoted : Derives Quotation.scope "é…" Quotation.quoted 0 none :=
    .node_failed (.seq_failed (.unread rfl (by decide +kernel)))
  have hletter : Derives Quotation.scope "é…" Quotation.letter 0
      (some (2, [⟨"Letter", "é…", ⟨0, 2⟩, []⟩])) :=
    .node_matched (.read (n := 2) rfl (by decide +kernel))
  have hdots : Derives Quotation.scope "é…" (.literal 9 "…") 2 (some (5, [])) :=
    .read (n := 3) rfl (by decide +kernel)
  have hderives : Derives Quotation.scope "é…" Quotation.text 0
      (some (5, [⟨"Letter", "é…", ⟨0, 2⟩, []⟩])) :=
    .choice_next hquoted (.choice_first (.seq_next hletter (.seq_next hdots .seq_nil)))
  obtain ⟨matched, after, cx', happly, hmeaning⟩ :=
    apply_derives ⟨Quotation.scope, .standard⟩ (.start "é…") 1024
      Quotation.resolves Quotation.identifies .refl (.start false) (by decide)
  have hgoing : (match apply ⟨Quotation.scope, .standard⟩ 1024 Quotation.text (.start "é…")
        (.start false) with
      | .ok _ cx' => cx'.fatal.isNone
      | .error .. => false) = true := by decide +kernel
  rw [happly] at hgoing
  have hfatal : cx'.fatal = none := Option.isNone_iff_eq_none.1 hgoing
  obtain ⟨rfl, hstop, hext⟩ := ((hmeaning hfatal).1 _ hderives).of_some
  exact ⟨after, cx', happly, hstop, hext.toList_eq rfl⟩

end Packrat
