import Packrat.Proofs.Refactoring

/-!
# Reading all of the input

A run that has to read all of its input checks this behind the root rule. The same check
can be a part of the grammar: a sequence of the root rule and the end of the input.

- `Parser.rootOver`: the token of a run, from the tokens of its root rule.
- `Parser.finding`, `Parser.run_eq_finding`: what a run without limits finds is a function of
  what its root rule evaluates to.
- `Parser.parseComplete_iff_sequence`: both ways to read all of the input find the same trees
  and say the same where they find none.
-/

namespace Packrat

variable {scope : Scope} {input : String} {st : ParseState} {tokens : List Token}
  {rule : Rule} {pos : Nat} {outcome : Outcome} {wants : List Want}

/-! ## The end of the input -/

/-- The end of the input is where a state is at its end. -/
theorem readsAt?_endOfInput (st : ParseState) (id : RuleId) :
    (Rule.endOfInput id).readsAt? st.input st.position = if st.isAtEnd then some 0 else none := by
  rw [st.readsAt?_eq, st.isAtEnd_eq]
  rfl

/-- Behind a rule that fails, the end of the input is not looked for. -/
theorem Evaluates.append_end_failed {stalls : Prop} {id stop : RuleId}
    (h : Evaluates scope input stalls rule pos none wants) :
    Evaluates scope input stalls (.seq id [rule, .endOfInput stop]) pos none wants :=
  .seq_failed h

/-- Behind a rule that matches, the end of the input is there, or it is wanted. -/
theorem Evaluates.append_end {stalls : Prop} (id stop : RuleId) (hinput : st.input = input)
    (h : Evaluates scope input stalls rule pos (some (st.position, tokens)) wants) :
    (st.isAtEnd = true ∧ Evaluates scope input stalls (.seq id [rule, .endOfInput stop]) pos
      (some (st.position, tokens)) wants) ∨
    st.isAtEnd = false ∧ Evaluates scope input stalls (.seq id [rule, .endOfInput stop]) pos
      none (wants ++ [(st.position, "end of input")]) := by
  have hreads := readsAt?_endOfInput st stop
  rw [hinput] at hreads
  cases hend : st.isAtEnd with
  | true =>
    rw [hend, if_pos rfl] at hreads
    refine .inl ⟨rfl, Evaluates.seq_pair_iff.2 (.inr ⟨_, _, _, _, _, h, .read rfl hreads, ?_, ?_⟩)⟩
    · simp [Outcome.after]
    · simp
  | false =>
    rw [hend, if_neg (by decide)] at hreads
    exact .inr ⟨rfl, Evaluates.seq_pair_iff.2
      (.inr ⟨_, _, none, _, _, h, .unread rfl hreads, rfl, rfl⟩)⟩

namespace Parser

/-! ## What a run finds -/

/-- The token of a run whose root rule stopped at `stop` with these tokens: the only one, if
it covers all that was read, or one with the given name made over all of them. -/
def rootOver (name input : String) (stop : Nat) (tokens : List Token) : Token :=
  match tokens with
  | [only] => if only.span = ⟨0, stop⟩ then only else ⟨name, input, ⟨0, stop⟩, tokens⟩
  | _ => ⟨name, input, ⟨0, stop⟩, tokens⟩

theorem stop_rootOver (name input : String) (stop : Nat) (tokens : List Token) :
    (rootOver name input stop tokens).stop = stop := by
  unfold rootOver
  split
  · split
    · rename_i hspan
      rw [Token.stop, hspan]
    · rfl
  · rfl

theorem rootToken_eq (scope : Scope) (root : Rule)
    (hext : (ParseState.start input).Extends tokens st) :
    rootToken scope root st =
      .ok (rootOver ((scope.name root.id).getD unnamedRoot) input st.position tokens) := by
  have hinput : st.input = input := hext.input_eq
  have hlog : st.emitted.toList = tokens := hext.toList_eq rfl
  have hordered : Token.Ordered input 0 tokens st.position := hext.ordered
  have hspan : Span.make 0 st.position = .ok ⟨0, st.position⟩ :=
    Span.make_eq_ok_iff.2 ⟨Nat.zero_le _, rfl⟩
  obtain ⟨hmake, -⟩ := hordered.make_eq_ok ((scope.name root.id).getD unnamedRoot)
    (Text.isBoundary_zero input) (hinput ▸ st.isBoundary_position)
  unfold rootToken rootOver
  rw [hspan, hlog, hinput]
  simp only [bind, Except.bind, pure, Except.pure, hmake]
  rcases tokens with _ | ⟨only, _ | ⟨second, rest⟩⟩
  · rfl
  · dsimp only
    split <;> rfl
  · rfl

/-- What a run finds where its root rule has this outcome and wants this on the way. -/
def finding (scope : Scope) (root : Rule) (input : String) (complete : Bool) (wants : List Want) :
    Outcome → Except ParseError Token
  | none => .error (.noMatch (Failure.noteAll ⟨0, []⟩ wants))
  | some (stop, tokens) =>
    if complete && stop != input.utf8ByteSize then
      .error (.incomplete stop (Failure.noteAll ⟨0, []⟩ (wants ++ [(stop, "end of input")])))
    else .ok (rootOver ((scope.name root.id).getD unnamedRoot) input stop tokens)

/-- **What a run finds is a function of what its root rule evaluates to**, unless a limit is
met. Whether all input has to be read makes no difference to the evaluation. -/
theorem run_eq_finding (p : Parser) {complete : Bool} (hresolves : scope.Resolves p.root)
    (hidentifies : scope.Identifies p.root)
    (hlimit : ∀ error, (p.run scope input complete).result ≠ .ok (.error (.limit error))) :
    ∃ outcome wants, Evaluates scope input True p.root 0 outcome wants ∧
      (∀ stop tokens, outcome = some (stop, tokens) →
        ∃ st, (ParseState.start input).Extends tokens st ∧ st.position = stop) ∧
      ∀ complete', (p.run scope input complete').result =
        .ok (finding scope p.root input complete' wants outcome) := by
  have happlicable : Applicable (p.setting scope) p.root p.limits.recursionLimit.toNat p.root
      (.start input) (.start p.memoize) :=
    ⟨hresolves, hidentifies, .refl, .start p.memoize, Nat.le_add_right _ _⟩
  obtain ⟨matched, st, cx, happly, -, hquiet, hmeans⟩ := happlicable.exists_apply
  have hfatal : cx.fatal = none := by
    rw [p.run_eq_of_apply happly] at hlimit
    exact fatal_eq_none_of_verdict hlimit
  obtain ⟨outcome, wants, heval, hreal, hnoted⟩ := hmeans rfl hfatal
  have hnoted : cx.failure = Failure.noteAll ⟨0, []⟩ wants := hnoted
  have hquiet : cx.quiet = 0 := hquiet
  refine ⟨outcome, wants, heval, ?_, fun complete' => ?_⟩
  · rintro stop tokens rfl
    obtain ⟨-, hstop, hext⟩ := hreal.of_some
    exact ⟨st, hext, hstop⟩
  · rw [p.run_eq_of_apply happly]
    unfold verdict
    rw [hfatal]
    cases hreal with
    | failed => rw [finding, hnoted]; rfl
    | matched hext =>
      have hinput : st.input = input := hext.input_eq
      have hend : (!st.isAtEnd) = (st.position != input.utf8ByteSize) := by
        rw [ParseState.isAtEnd, hinput]
        rfl
      have hwanted : (cx.expect st.position "end of input").failure =
          Failure.noteAll ⟨0, []⟩ (wants ++ [(st.position, "end of input")]) := by
        rw [Context.failure_expect, if_pos hquiet, hnoted, Failure.noteAll_append]
        rfl
      rw [finding, rootToken_eq scope p.root hext, hend, hwanted]
      simp only [Bool.true_eq_false, if_false]
      split <;> rfl

/-! ## Both ways to read all of the input -/

section

variable {p q : Parser} {id stop : RuleId}

/-- The two runs, and the run that may leave input, end in one of three ways: without a match,
at the end of the input, or before it. -/
theorem parseComplete_cases (hroot : q.root = .seq id [p.root, .endOfInput stop])
    (hresolves : scope.Resolves q.root) (hidentifies : scope.Identifies q.root)
    (hp : ∀ error, (p.parseComplete scope input).result ≠ .ok (.error (.limit error)))
    (hq : ∀ error, (q.parse scope input).result ≠ .ok (.error (.limit error))) :
    (∃ failure, (p.parseComplete scope input).result = .ok (.error (.noMatch failure)) ∧
      (q.parse scope input).result = .ok (.error (.noMatch failure)) ∧
      (p.parse scope input).result = .ok (.error (.noMatch failure))) ∨
    (∃ tokens,
      (p.parseComplete scope input).result = .ok (.ok (rootOver
        ((scope.name p.root.id).getD unnamedRoot) input input.utf8ByteSize tokens)) ∧
      (q.parse scope input).result = .ok (.ok (rootOver
        ((scope.name id).getD unnamedRoot) input input.utf8ByteSize tokens)) ∧
      (p.parse scope input).result = (p.parseComplete scope input).result) ∨
    ∃ consumed failure tokens, consumed < input.utf8ByteSize ∧
      (p.parseComplete scope input).result = .ok (.error (.incomplete consumed failure)) ∧
      (q.parse scope input).result = .ok (.error (.noMatch failure)) ∧
      (p.parse scope input).result = .ok (.ok (rootOver
        ((scope.name p.root.id).getD unnamedRoot) input consumed tokens)) := by
  have hbelow : q.root.Reaches scope p.root := by
    rw [hroot]
    exact Rule.Reaches.refl.operand List.mem_cons_self
  obtain ⟨outcome, wants, heval, hmatched, hfound⟩ := p.run_eq_finding
    (fun id key h => hresolves id key (hbelow.trans h))
    (fun _ _ h h' => hidentifies _ _ (hbelow.trans h) (hbelow.trans h')) hp
  obtain ⟨outcome', wants', heval', -, hfound'⟩ := q.run_eq_finding hresolves hidentifies hq
  unfold parseComplete parse
  simp only [hfound, hfound', hroot]
  rw [hroot] at heval'
  obtain _ | ⟨position, tokens⟩ := outcome
  · obtain ⟨rfl, rfl⟩ := heval'.det heval.append_end_failed
    exact .inl ⟨_, rfl, rfl, rfl⟩
  · obtain ⟨st, hext, rfl⟩ := hmatched _ _ rfl
    have hinput : st.input = input := hext.input_eq
    rcases heval.append_end id stop hinput with ⟨hend, hseq⟩ | ⟨hend, hseq⟩
    · obtain ⟨rfl, rfl⟩ := heval'.det hseq
      have hstop : st.position = input.utf8ByteSize := by
        rw [← hinput]
        exact eq_of_beq hend
      refine .inr (.inl ⟨tokens, ?_⟩)
      simp [finding, hstop, Rule.id]
    · obtain ⟨rfl, rfl⟩ := heval'.det hseq
      have hne : st.position ≠ input.utf8ByteSize := by
        rw [← hinput]
        exact ne_of_beq_false hend
      have hle : st.position ≤ input.utf8ByteSize := by
        rw [← hinput]
        exact Text.le_of_isBoundary st.isBoundary_position
      refine .inr (.inr ⟨_, _, tokens, Nat.lt_of_le_of_ne hle hne, ?_, rfl, rfl⟩)
      simp [finding, hne]

/-- **Requiring all of the input is appending its end.** Where no limit is met, the run that
has to read all of the input and the run of the sequence find the same tree, but for the name
of a root that is made over the tokens; and where there is no match they say the same. Where
input remains, the sequence does not match, and it wants what the other run wants. -/
theorem parseComplete_iff_sequence (hroot : q.root = .seq id [p.root, .endOfInput stop])
    (hname : scope.name id = none)
    (hresolves : scope.Resolves q.root) (hidentifies : scope.Identifies q.root)
    (hp : ∀ error, (p.parseComplete scope input).result ≠ .ok (.error (.limit error)))
    (hq : ∀ error, (q.parse scope input).result ≠ .ok (.error (.limit error))) :
    ((∃ token, (p.parseComplete scope input).result = .ok (.ok token)) ↔
        ∃ token, (q.parse scope input).result = .ok (.ok token)) ∧
      (∀ token token', (p.parseComplete scope input).result = .ok (.ok token) →
        (q.parse scope input).result = .ok (.ok token') →
          ∃ tokens,
            token = rootOver ((scope.name p.root.id).getD unnamedRoot) input input.utf8ByteSize
              tokens ∧
            token' = rootOver unnamedRoot input input.utf8ByteSize tokens) ∧
      (∀ failure, (p.parseComplete scope input).result = .ok (.error (.noMatch failure)) →
        (q.parse scope input).result = .ok (.error (.noMatch failure))) ∧
      (∀ consumed, (∃ failure, (p.parseComplete scope input).result =
            .ok (.error (.incomplete consumed failure))) ↔
          ∃ token, (p.parse scope input).result = .ok (.ok token) ∧ token.stop = consumed ∧
            consumed < input.utf8ByteSize) ∧
      ∀ consumed failure, (p.parseComplete scope input).result =
          .ok (.error (.incomplete consumed failure)) →
        (q.parse scope input).result = .ok (.error (.noMatch failure)) := by
  rcases parseComplete_cases hroot hresolves hidentifies hp hq with
    ⟨failure, hcomplete, hsequence, hparse⟩ | ⟨tokens, hcomplete, hsequence, hparse⟩ |
      ⟨consumed, failure, tokens, hlt, hcomplete, hsequence, hparse⟩
  · rw [hcomplete, hsequence, hparse]
    simp
  · rw [hparse, hcomplete, hsequence, hname, Option.getD_none]
    refine ⟨by simp, ?_, by simp, ?_, by simp⟩
    · rintro _ _ ⟨⟩ ⟨⟩
      exact ⟨tokens, rfl, rfl⟩
    · rintro consumed
      constructor
      · rintro ⟨_, ⟨⟩⟩
      · -- the token stops at the end of the input
        rintro ⟨_, ⟨⟩, rfl, hlt⟩
        rw [stop_rootOver] at hlt
        exact absurd hlt (Nat.lt_irrefl _)
  · rw [hcomplete, hsequence, hparse]
    simp [stop_rootOver, hlt]

end

/-! ## Quotations up to the end -/

/-- A quotation and the end of the input. -/
def wholeText : Rule := .seq 10 [Quotation.text, .endOfInput 11]

theorem closes_wholeText :
    Quotation.scope.Closes (wholeText :: .endOfInput 11 :: Quotation.rules) where
  operand_mem := by
    simp [wholeText, Quotation.rules, Quotation.text, Quotation.quoted, Quotation.dotted,
      Quotation.letter, Rule.operands]
  target_mem := by
    intro id key target _ htarget
    obtain ⟨-, htext⟩ := Option.ite_none_right_eq_some.1 htarget
    cases htext
    exact List.mem_cons_of_mem _ (List.mem_cons_of_mem _ List.mem_cons_self)

/-- How much a run has read that leaves some of the input, and where it got stuck. -/
def Report.incomplete? (report : Report) : Option (Nat × Failure) :=
  match report.result with
  | .ok (.error (.incomplete consumed failure)) => some (consumed, failure)
  | _ => none

theorem Report.result_of_incomplete? {report : Report} {consumed : Nat} {failure : Failure}
    (h : report.incomplete? = some (consumed, failure)) :
    report.result = .ok (.error (.incomplete consumed failure)) := by
  unfold incomplete? at h
  split at h
  · rename_i hresult
    cases h
    exact hresult
  · cases h

/-- A letter is found, and a period behind it is in the way of both runs. -/
theorem parseComplete_iff_sequence_letter :
    ∃ failure, ((ofRule Quotation.text).parseComplete Quotation.scope "é.").result =
        .ok (.error (.incomplete 2 failure)) ∧
      ((ofRule wholeText).parse Quotation.scope "é.").result = .ok (.error (.noMatch failure)) := by
  have hread : ((ofRule Quotation.text).parseComplete Quotation.scope "é.").incomplete?.map (·.1) =
      some 2 := by decide +kernel
  have hfailed : ((ofRule wholeText).parse Quotation.scope "é.").noMatch?.isSome = true := by
    decide +kernel
  obtain ⟨⟨_, failure⟩, hleft, rfl⟩ := Option.map_eq_some_iff.1 hread
  have hresult := Report.result_of_incomplete? hleft
  obtain ⟨_, hnone⟩ := Option.isSome_iff_exists.1 hfailed
  have hsequence := Report.result_of_noMatch? hnone
  have hresolves : Quotation.scope.Resolves wholeText :=
    closes_wholeText.resolves List.mem_cons_self (by
      simp [wholeText, Quotation.rules, Quotation.text, Quotation.quoted, Quotation.dotted,
        Quotation.letter, Quotation.scope])
  have hidentifies : Quotation.scope.Identifies wholeText :=
    closes_wholeText.identifies List.mem_cons_self (by decide)
  have hp : ∀ error, ((ofRule Quotation.text).parseComplete Quotation.scope "é.").result ≠
      .ok (.error (.limit error)) := fun error h => by
    rw [hresult] at h
    cases h
  have hq : ∀ error, ((ofRule wholeText).parse Quotation.scope "é.").result ≠
      .ok (.error (.limit error)) := fun error h => by
    rw [hsequence] at h
    cases h
  obtain ⟨-, -, -, -, hincomplete⟩ :=
    parseComplete_iff_sequence rfl rfl hresolves hidentifies hp hq
  exact ⟨failure, hresult, hincomplete 2 failure hresult⟩

end Parser

end Packrat
